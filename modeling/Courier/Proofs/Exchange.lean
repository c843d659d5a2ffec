import Courier.Client.Exchange
import Courier.Proofs.Step

/-!
# What an answered exchange gives

A response that comes in whole leaves an exchange with its content decoded, with two exceptions. A
redirect may have a location that is no URL, which makes the exchange fail like a broken connection
(`Misreads`). And the cookies, the target of a redirect or the decoding may fail in a way that is no
fault of the transport (`Spoils`). `complete_cases` says that there is nothing else. So the time and
the cookies matter to what an outcome gives only so far as cookies fail (`complete_congr`).
-/

namespace Courier

/-- Only the content of a response is decoded. -/
theorem Http.Response.decoded_eq_ok [Codecs] {response decoded : Http.Response}
    (ok : response.decoded = .ok decoded) :
    decoded = { response with content := decoded.content } := by
  obtain ⟨content, -, rfl⟩ := map_eq_ok.mp ok
  rfl

theorem Http.Response.decoded_status [Codecs] {response decoded : Http.Response}
    (ok : response.decoded = .ok decoded) : decoded.status = response.status := by
  rw [decoded_eq_ok ok]

theorem Http.Response.decoded_headers [Codecs] {response decoded : Http.Response}
    (ok : response.decoded = .ok decoded) : decoded.headers = response.headers := by
  rw [decoded_eq_ok ok]

/-- Decoding the content of a response changes nothing about whether it is followed. -/
theorem Redirect.follows_decoded [Codecs] {response decoded : Http.Response}
    (ok : response.decoded = .ok decoded) (method : String) :
    follows method decoded = follows method response := by
  rw [Http.Response.decoded_eq_ok ok]
  rfl

/-- A response that cannot be decoded has a fault of decoding. -/
theorem Http.Response.decoded_eq_error [Codecs] {response : Http.Response} {fault : Fault}
    (failed : response.decoded = .error fault) : fault.category = .decoding := by
  have coded : ∀ coding ∈ (response.codings.filterMap Codecs.decoder?).reverse, ∀ content fault,
      coding content = .error fault → fault.category = .decoding := by
    intro decode member content fault failed
    obtain ⟨coding, -, known⟩ := List.mem_filterMap.mp (List.mem_reverse.mp member)
    exact Codecs.decoder_fault known failed
  unfold Http.Response.decoded at failed
  generalize (response.codings.filterMap Codecs.decoder?).reverse = decoders at coded failed
  generalize response.content = content at failed
  simp only at failed
  induction decoders generalizing content with
  | nil => cases failed
  | cons decode decoders ih =>
    rw [List.foldlM_cons] at failed
    cases once : decode content with
    | error fault' =>
      rw [once] at failed
      cases failed
      exact coded decode List.mem_cons_self content fault once
    | ok content' =>
      rw [once] at failed
      exact ih (fun coding member => coded coding (List.mem_cons_of_mem _ member)) content' failed

namespace Exchange

/-- The location of a redirect. -/
def location? (response : Http.Response) : Option (List Char) :=
  if Redirect.statuses.contains response.status then
    response.headers.get? Http.FieldName.location
  else none

/-- The error of cookies that a send gives, if it gives one. -/
def siteError? : Except Error Http.Response → Option Http.SiteError
  | .error (.site error) => some error
  | .error (.fault _) | .error (.url _) | .error (.name _) | .ok _ => none

theorem siteError?_eq_some {given : Except Error Http.Response} {error : Http.SiteError} :
    siteError? given = some error ↔ given = .error (.site error) := by
  cases given with
  | ok response => simp [siteError?]
  | error failure => cases failure <;> simp [siteError?]

variable [Codecs]

/-- The target that a location leads to from a URL, if the hosts of both stand for names. -/
def reach (origin : Url) (location : List Char) : Except Error Url := do
  let url ← completeLocation origin location
  (checkNames origin url).mapError .name
  return url

variable (now : Int) (cookies : Http.CookieJar) (request : Http.Request) (response : Http.Response)

/-- The cookies once a response has set its own, if cookies can be exchanged with the site of the
    request. -/
def received : Except Http.SiteError Http.CookieJar :=
  match Http.Site.ofRequest request.url request.headers with
  | .error error => .error error
  | .ok site =>
    let received :=
      cookies.receive now site (response.headers.getAll Http.FieldName.setCookie)
    received.2.map fun _ => received.1

/-- A response whose location is no URL. -/
def Misreads (error : Url.Error) : Prop :=
  ∃ jar location, received now cookies request response = .ok jar ∧
    location? response = some location ∧ Url.read location = .error error

/-- A response that ends its exchange with an error that is no fault of the transport. -/
inductive Spoils : Error → Prop
  | unreceived {error : Http.SiteError} :
      received now cookies request response = .error error → Spoils (.site error)
  | unreached {jar : Http.CookieJar} {location : List Char} {error : Url.Error} :
      received now cookies request response = .ok jar → location? response = some location →
      reach request.url location = .error (.url error) → Spoils (.url error)
  | unnamed {jar : Http.CookieJar} {location : List Char} {error : NameError} :
      received now cookies request response = .ok jar → location? response = some location →
      reach request.url location = .error (.name error) → Spoils (.name error)
  | unpresented {jar : Http.CookieJar} {location : List Char} {url : Url} {error : Http.SiteError} :
      received now cookies request response = .ok jar → location? response = some location →
      reach request.url location = .ok url →
      jar.present now url (targetFields request url response.status) = .error error →
      Spoils (.site error)
  | undecodable {jar : Http.CookieJar} {fault : Fault} :
      received now cookies request response = .ok jar →
      checkRedirect now jar request response = .ok () → response.bodyFault = none →
      response.decoded = .error fault → Spoils (.fault fault)

/-- Whether an error is none of the transport. -/
inductive Error.IsForeign : Error → Prop
  | site (error : Http.SiteError) : IsForeign (.site error)
  | url (error : Url.Error) : IsForeign (.url error)
  | name (error : NameError) : IsForeign (.name error)
  | decoding {fault : Fault} : fault.category = .decoding → IsForeign (.fault fault)

theorem Spoils.isForeign {now cookies request response} {error : Error}
    (spoilt : Spoils now cookies request response error) : error.IsForeign := by
  cases spoilt with
  | unreceived _ => exact .site _
  | unreached _ _ _ => exact .url _
  | unnamed _ _ _ => exact .name _
  | unpresented _ _ _ _ => exact .site _
  | undecodable _ _ _ failed => exact .decoding (Http.Response.decoded_eq_error failed)

/-- A step of an exchange that gives something, or an error of a URL or of a name. -/
inductive OfUrls {α : Type} : Except Error α → Prop
  | url (error : Url.Error) : OfUrls (.error (.url error))
  | name (error : NameError) : OfUrls (.error (.name error))
  | ok (a : α) : OfUrls (.ok a)

namespace OfUrls

variable {α β : Type}

omit [Codecs] in
theorem mapError_url (x : Except Url.Error α) : OfUrls (x.mapError .url) := by
  cases x with
  | error error => exact .url error
  | ok a => exact .ok a

omit [Codecs] in
theorem mapError_name (x : Except NameError α) : OfUrls (x.mapError .name) := by
  cases x with
  | error error => exact .name error
  | ok a => exact .ok a

omit [Codecs] in
theorem bind {x : Except Error α} {f : α → Except Error β} (h : OfUrls x)
    (next : ∀ a, OfUrls (f a)) :
    OfUrls (x >>= f) := by
  cases h with
  | url error => exact .url error
  | name error => exact .name error
  | ok a => exact next a

end OfUrls

/-- A location with a scheme and no host is given the one of the request, if it can be. -/
theorem lendHost_ofUrls (origin url : Url) : OfUrls (lendHost origin url) := by
  unfold lendHost
  split
  · exact .ok url
  · refine OfUrls.bind (.mapError_name _) fun name => ?_
    split
    · exact OfUrls.bind (.mapError_name _) fun _ => .mapError_url _
    · exact .ok url

/-- Reaching for the target of a location fails like a broken connection exactly if the location is
    no URL. -/
theorem reach_cases (origin : Url) (location : List Char) :
    (∃ error, Url.read location = .error error ∧
        reach origin location = .error (.fault (badLocation error))) ∨
      (∃ url, Url.read location = .ok url) ∧ OfUrls (reach origin location) := by
  unfold reach completeLocation
  cases Url.read location with
  | error error => exact .inl ⟨error, rfl, rfl⟩
  | ok url =>
    have absolute : ∀ url : Url, OfUrls (joinRelative origin url) := by
      intro url
      unfold joinRelative
      split
      · exact .ok url
      · exact .mapError_url _
    have completed : OfUrls (do
        let url ← lendHost origin url
        let url ← joinRelative origin url
        (Redirect.inheritFragment origin url).mapError .url) :=
      OfUrls.bind (lendHost_ofUrls origin url) fun url =>
        OfUrls.bind (absolute url) fun _ => .mapError_url _
    exact .inr ⟨⟨url, rfl⟩, completed.bind fun url =>
      OfUrls.bind (.mapError_name _) fun _ => .ok url⟩

theorem complete_answer :
    (complete now cookies request (.answer response)).given =
      match received now cookies request response with
      | .error error => .error (.site error)
      | .ok jar => checkRedirect now jar request response >>= fun _ => readBody response := by
  unfold complete received
  cases Http.Site.ofRequest request.url request.headers with
  | error error => rfl
  | ok site =>
    simp only
    cases (cookies.receive now site (response.headers.getAll Http.FieldName.setCookie)).2 with
    | error error => rfl
    | ok _ => rfl

theorem checkRedirect_eq (jar : Http.CookieJar) :
    checkRedirect now jar request response =
      match location? response with
      | none => .ok ()
      | some location =>
        reach request.url location >>= fun url =>
          ((jar.present now url (targetFields request url response.status)).mapError .site).map
            fun _ => () := by
  unfold checkRedirect location? reach
  split
  · cases response.headers.get? Http.FieldName.location with
    | none => rfl
    | some location =>
      simp only
      cases completeLocation request.url location with
      | error error => rfl
      | ok url =>
        simp only [bind, Except.bind]
        cases checkNames request.url url <;> rfl
  · rfl

variable {now cookies request response}

/-- A location that is no URL fails like a broken connection. -/
theorem complete_of_misreads {error : Url.Error}
    (misread : Misreads now cookies request response error) :
    (complete now cookies request (.answer response)).given =
      .error (.fault (badLocation error)) := by
  obtain ⟨jar, location, arrived, located, unread⟩ := misread
  have failed : reach request.url location = .error (.fault (badLocation error)) := by
    rcases reach_cases request.url location with ⟨same, unread', failed⟩ | ⟨⟨url, read⟩, _⟩
    · rw [unread, Except.error.injEq] at unread'
      rw [failed, unread']
    · simp [unread] at read
  simp only [complete_answer, arrived, checkRedirect_eq, located, failed]
  rfl

/-- A response that spoils its exchange ends it with its error. -/
theorem complete_of_spoils {error : Error} (spoilt : Spoils now cookies request response error) :
    (complete now cookies request (.answer response)).given = .error error := by
  rw [complete_answer]
  cases spoilt with
  | unreceived failed => simp only [failed]
  | unreached arrived located failed | unnamed arrived located failed =>
    simp only [arrived, checkRedirect_eq, located, failed]
    rfl
  | unpresented arrived located reached failed =>
    simp only [arrived, checkRedirect_eq, located, reached, bind, Except.bind, failed]
    rfl
  | undecodable arrived passed whole failed =>
    simp only [arrived, passed, readBody, whole, failed]
    rfl

/-- What becomes of a response that comes in whole once its redirect has been looked at. -/
theorem spoils_or_decoded {jar : Http.CookieJar} (whole : response.bodyFault = none)
    (arrived : received now cookies request response = .ok jar)
    (passed : checkRedirect now jar request response = .ok ()) :
    (∃ error, Spoils now cookies request response error) ∨
      ∃ decoded, response.decoded = .ok decoded ∧
        (complete now cookies request (.answer response)).given = .ok decoded := by
  cases content : response.decoded with
  | error fault => exact .inl ⟨_, .undecodable arrived passed whole content⟩
  | ok decoded =>
    refine .inr ⟨decoded, rfl, ?_⟩
    simp only [complete_answer, arrived, passed, readBody, whole, content]
    rfl

variable (now cookies request) in
/-- There is nothing else that keeps a response that comes in whole from leaving the exchange
    decoded. -/
theorem complete_cases (whole : response.bodyFault = none) :
    (∃ error, Misreads now cookies request response error) ∨
      (∃ error, Spoils now cookies request response error) ∨
      ∃ decoded, response.decoded = .ok decoded ∧
        (complete now cookies request (.answer response)).given = .ok decoded := by
  cases arrived : received now cookies request response with
  | error error => exact .inr (.inl ⟨_, .unreceived arrived⟩)
  | ok jar =>
    have checked := checkRedirect_eq now request response jar
    cases located : location? response with
    | none =>
      rw [located] at checked
      exact .inr (spoils_or_decoded whole arrived checked)
    | some location =>
      simp only [located] at checked
      rcases reach_cases request.url location with ⟨error, unread, _⟩ | ⟨_, reached⟩
      · exact .inl ⟨error, jar, location, arrived, located, unread⟩
      · generalize target : reach request.url location = outcome at reached checked
        cases reached with
        | url error => exact .inr (.inl ⟨_, .unreached arrived located target⟩)
        | name error => exact .inr (.inl ⟨_, .unnamed arrived located target⟩)
        | ok url =>
          cases shown : jar.present now url (targetFields request url response.status) with
          | error error => exact .inr (.inl ⟨_, .unpresented arrived located target shown⟩)
          | ok fields =>
            simp only [bind, Except.bind, shown] at checked
            exact .inr (spoils_or_decoded whole arrived checked)

/-- A response comes out of its exchange, with its content decoded, exactly if nothing keeps it from
    that. -/
theorem complete_isOk_iff (whole : response.bodyFault = none) :
    (∃ decoded, response.decoded = .ok decoded ∧
        (complete now cookies request (.answer response)).given = .ok decoded) ↔
      (∀ error, ¬ Misreads now cookies request response error) ∧
        ∀ error, ¬ Spoils now cookies request response error := by
  constructor
  · rintro ⟨decoded, -, given⟩
    exact ⟨fun error misread => by simp [complete_of_misreads misread] at given,
      fun error spoilt => by simp [complete_of_spoils spoilt] at given⟩
  · rintro ⟨read, clean⟩
    rcases complete_cases now cookies request whole with ⟨error, misread⟩ | ⟨error, spoilt⟩ | given
    · exact absurd misread (read error)
    · exact absurd spoilt (clean error)
    · exact given

/-- An answer whose cookies do not fail comes out whatever cookies there are. -/
theorem complete_of_clean
    (clean : siteError? (complete now cookies request (.answer response)).given = none) :
    (complete now cookies request (.answer response)).given =
      match location? response with
      | none => readBody response
      | some location => reach request.url location >>= fun _ => readBody response := by
  have unspoilt : ∀ error, (complete now cookies request (.answer response)).given ≠
    .error (.site error) := by
    intro error spoilt
    rw [siteError?_eq_some.mpr spoilt] at clean
    cases clean
  rw [complete_answer] at unspoilt ⊢
  cases arrived : received now cookies request response with
  | error error => exact absurd (by rw [arrived]) (unspoilt error)
  | ok jar =>
    simp only [arrived, checkRedirect_eq] at unspoilt ⊢
    cases located : location? response with
    | none => rfl
    | some location =>
      simp only [located, bind, Except.bind] at unspoilt ⊢
      cases reached : reach request.url location with
      | error error => rfl
      | ok url =>
        simp only [reached] at unspoilt ⊢
        cases shown : jar.present now url (targetFields request url response.status) with
        | ok fields => rfl
        | error error =>
          rw [shown] at unspoilt
          exact absurd rfl (unspoilt error)

/-- What an outcome gives depends on the time and the cookies only so far as cookies fail. -/
theorem complete_congr {now' : Int} {cookies' : Http.CookieJar} {outcome : Outcome}
    (alike : siteError? (complete now' cookies' request outcome).given =
      siteError? (complete now cookies request outcome).given) :
    (complete now' cookies' request outcome).given =
    (complete now cookies request outcome).given := by
  cases outcome with
  | fault fault => rfl
  | answer response =>
    cases clean : siteError? (complete now cookies request (.answer response)).given with
    | none =>
      rw [clean] at alike
      rw [complete_of_clean clean, complete_of_clean alike]
    | some error =>
      rw [clean] at alike
      rw [siteError?_eq_some.mp clean, siteError?_eq_some.mp alike]

end Exchange

/-- A call that is given an error which is none of the transport fails, and not for a send. -/
theorem Call.fail_of_foreign [Codecs] (call : Call) {error : Exchange.Error}
    (foreign : error.IsForeign) :
    ∃ failure, call.verdict (.error error) = .fail failure ∧ (∀ error, failure ≠ .client error) ∧
      failure ≠ .unfinished := by
  cases foreign with
  | site error => exact ⟨.site error, rfl, by simp, by simp⟩
  | url error => exact ⟨.url error, rfl, by simp, by simp⟩
  | name error => exact ⟨.name error, rfl, by simp, by simp⟩
  | @decoding fault category =>
    refine ⟨.fault fault, ?_, by simp, by simp⟩
    simp [verdict, onFault, category, Fault.Category.isTransport]

end Courier
