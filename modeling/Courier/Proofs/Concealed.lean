import Courier.Proofs.Base64
import Courier.Proofs.Prepare
import Mathlib.Data.List.TakeWhile

/-!
# Requests without the values that authorize them

To say that requests differ in nothing but what authorizes them, their fields of authorization are
left with an empty value (`Request.concealed`). What a client adds is always ASCII, and only such
values are concealed, so the charset of the fields stays what it was. Everything that looks at a
request on its way sees the same in the concealed one: a request that is built again, and what an
exchange gives.
-/

namespace Courier

/-! ## ASCII -/

/-- Whether octets are all of ASCII. -/
def Utf8.isAscii (octets : Octets) : Bool := octets.all (· < 0x80)

theorem Utf8.isAscii_encode {cs : List Char} (ascii : ∀ c ∈ cs, c.toNat < 128) :
    Utf8.isAscii (Utf8.encode cs) = true := by
  induction cs with
  | nil => rfl
  | cons c rest ih =>
    have low : c.toNat ≤ 127 := Nat.le_of_lt_succ (ascii c List.mem_cons_self)
    have single : String.utf8EncodeChar c = [UInt8.ofNat c.toNat] := by
      simp [String.utf8EncodeChar, low]
    have small : UInt8.ofNat c.toNat < 0x80 := by
      have fits : c.toNat < UInt8.size := Nat.lt_of_le_of_lt low (by decide)
      rw [UInt8.lt_iff_toNat_lt, UInt8.toNat_ofNat_of_lt' fits]
      exact Nat.lt_succ_of_le low
    have later := ih fun c member => ascii c (List.mem_cons_of_mem _ member)
    unfold isAscii encode at *
    rw [List.flatMap_cons, single, List.all_append, later]
    simpa using small

theorem Utf8.decode?_isSome_of_ascii {octets : Octets} (ascii : isAscii octets = true) :
    (decode? octets).isSome = true := by
  unfold decode?
  induction octets with
  | nil => rfl
  | cons b rest ih =>
    simp only [isAscii, List.all_cons, Bool.and_eq_true, decide_eq_true_eq] at ascii
    obtain ⟨cs, decoded⟩ := Option.isSome_iff_exists.mp (ih ascii.2)
    simp [pieces, feed, start, ascii.1, List.mapM_cons, decoded]

/-- What presents octets is of ASCII. -/
theorem Credentials.basicValue_ascii (octets : Octets) :
    ∀ c ∈ basicValue octets, c.toNat < 128 := by
  intro c member
  rcases List.mem_append.mp member with scheme | letters
  · have low : ['B', 'a', 's', 'i', 'c', ' '].all (·.toNat < 128) = true := rfl
    exact of_decide_eq_true (List.all_eq_true.mp low c scheme)
  · exact Nat.lt_of_lt_of_le ((Base64.encode_isPadded _).printable c letters).2 (by decide)

/-- Credentials are presented in ASCII, whatever they are. -/
theorem Exchange.authorizationField_ascii (credentials : Credentials) :
    Utf8.isAscii (authorizationField credentials).value = true := by
  unfold authorizationField
  cases header : credentials.basicHeader with
  | error error => rfl
  | ok value =>
    obtain ⟨octets, -, rfl⟩ := map_eq_ok.mp header
    exact Utf8.isAscii_encode (Credentials.basicValue_ascii octets)

namespace Http

/-- The field with its value concealed, if it authorizes in ASCII. -/
def Field.concealed (field : Field) : Field :=
  if sameName field.name FieldName.authorization && Utf8.isAscii field.value then
    { field with value := [] }
  else field

/-- The fields with those that authorize concealed. -/
def Headers.concealed (h : Headers) : Headers := ⟨h.fields.map Field.concealed⟩

/-- The request with its fields of authorization concealed. -/
def Request.concealed (r : Request) : Request := { r with headers := r.headers.concealed }

/-- Requests that are the same when concealed have the same method and URL. -/
theorem Request.line_of_concealed {r r' : Request} (same : r'.concealed = r.concealed) :
    r'.method = r.method ∧ r'.url = r.url := by
  have methods := congrArg Request.method same
  have urls := congrArg Request.url same
  exact ⟨methods, urls⟩

@[simp] theorem Field.concealed_name (field : Field) : field.concealed.name = field.name := by
  unfold concealed
  split <;> rfl

/-- A field of another name stays as it is. -/
theorem Field.concealed_of_other {field : Field}
    (other : sameName field.name FieldName.authorization = false) : field.concealed = field := by
  simp [concealed, other]

theorem Field.map_concealed_of_others {fields : List Field}
    (others : ∀ field ∈ fields, sameName field.name FieldName.authorization = false) :
    fields.map Field.concealed = fields := by
  conv => rhs; rw [← List.map_id fields]
  exact List.map_congr_left fun field member => Field.concealed_of_other (others field member)

theorem Field.concealed_isAscii (field : Field) :
    Utf8.isAscii field.concealed.value = Utf8.isAscii field.value := by
  unfold concealed
  split
  · rename_i authorizes
    simp only [Bool.and_eq_true] at authorizes
    rw [authorizes.2]
    rfl
  · rfl

theorem Field.concealed_decodes (field : Field) :
    (Utf8.decode? field.concealed.value).isSome = (Utf8.decode? field.value).isSome := by
  unfold concealed
  split
  · rename_i authorizes
    simp only [Bool.and_eq_true] at authorizes
    rw [Utf8.decode?_isSome_of_ascii authorizes.2]
    rfl
  · rfl

namespace Headers

variable (h : Headers) (field : Field) {name : Octets}

@[simp] theorem contains_concealed (name : Octets) :
    h.concealed.contains name = h.contains name := by
  simp [contains, concealed, List.any_map, Function.comp_def]

@[simp] theorem charset_concealed : h.concealed.charset = h.charset := by
  have ascii : ∀ field : Field, (field.concealed.value.all (· < 0x80)) =
    field.value.all (· < 0x80) :=
    Field.concealed_isAscii
  simp only [charset, Charset.fitting, concealed, List.all_flatMap, List.all_map, List.all_cons,
    List.all_nil, Function.comp_def, Field.concealed_name, Field.concealed_decodes, ascii]

@[simp] theorem lostName?_concealed : h.concealed.lostName? = h.lostName? := by
  have names : h.concealed.names = h.names := by
    simp only [names, charset_concealed]
    simp [concealed, Function.comp_def]
  simp only [lostName?, names, charset_concealed, contains_concealed]

theorem getAll_concealed (other : sameName FieldName.authorization name = false) :
    h.concealed.getAll name = h.getAll name := by
  have kept : h.concealed.fields.filter (sameName ·.name name) =
    h.fields.filter (sameName ·.name name) := by
    rw [concealed, List.filter_map]
    simp only [Function.comp_def, Field.concealed_name]
    apply Field.map_concealed_of_others
    intro field member
    have same := (List.mem_filter.mp member).2
    rw [sameName_congr same, sameName_comm]
    exact other
  simp only [getAll, charset_concealed, kept]

theorem get?_concealed (other : sameName FieldName.authorization name = false) :
    h.concealed.get? name = h.get? name := by
  simp only [get?, h.getAll_concealed other]

@[simp] theorem concealed_erase (name : Octets) :
    (h.erase name).concealed = h.concealed.erase name := by
  simp [concealed, erase, List.filter_map, Function.comp_def]

@[simp] theorem concealed_set : (h.set field).concealed = h.concealed.set field.concealed := by
  unfold set concealed
  simp only [List.span_eq_takeWhile_dropWhile, List.takeWhile_map, List.dropWhile_map,
    Function.comp_def, Field.concealed_name]
  cases h.fields.dropWhile (!sameName ·.name field.name) with
  | nil => simp
  | cons first after => simp [List.filter_map, Function.comp_def]

@[simp] theorem concealed_setDefault :
    (h.setDefault field).concealed = h.concealed.setDefault field.concealed := by
  unfold setDefault
  rw [contains_concealed, Field.concealed_name]
  split
  · rfl
  · simp [concealed]

/-- A field of authorization that is set takes the place of whatever was concealed. -/
theorem set_concealed (authorizes : sameName field.name FieldName.authorization = true) :
    h.concealed.set field = h.set field := by
  have plain : ∀ fields : List Field, (∀ other ∈ fields, (!sameName other.name field.name) = true) →
      fields.map Field.concealed = fields := by
    intro fields others
    apply Field.map_concealed_of_others
    intro other member
    have differs := others other member
    rw [sameName_comm, sameName_congr authorizes, sameName_comm] at differs
    simpa using differs
  unfold set concealed
  simp only [List.span_eq_takeWhile_dropWhile, List.takeWhile_map, List.dropWhile_map,
    Function.comp_def, Field.concealed_name]
  -- before the first field of that name, and among the others after it, nothing is concealed
  have before :=
    plain (h.fields.takeWhile (!sameName ·.name field.name)) fun _ => List.mem_takeWhile_imp
  cases h.fields.dropWhile (!sameName ·.name field.name) with
  | nil => simp [before]
  | cons first after =>
    have later := plain (after.filter (!sameName ·.name field.name)) fun _ member =>
      (List.mem_filter.mp member).2
    simp only [List.map_cons, List.filter_map, Function.comp_def, Field.concealed_name,
      before, later]

end Headers

@[simp] theorem leadingFields_concealed (method : String) (url : Url) (h : Headers) :
    leadingFields method url h.concealed = leadingFields method url h := by
  simp only [leadingFields, Headers.contains_concealed]

theorem leadingFields_map_concealed (method : String) (url : Url) (h : Headers) :
    (leadingFields method url h).map Field.concealed = leadingFields method url h := by
  have host : sameName FieldName.host FieldName.authorization = false := by decide
  have length : sameName FieldName.contentLength FieldName.authorization = false := by decide
  apply Field.map_concealed_of_others
  intro field member
  unfold leadingFields at member
  rcases List.mem_append.mp member with first | second
  · split at first
    · cases first
    · rw [List.mem_singleton.mp first]
      exact host
  · split at second
    · cases second
    · rw [List.mem_singleton.mp second]
      exact length

theorem Headers.concealed_framed (h : Headers) (content : Octets) :
    (h.framed content).concealed = h.concealed.framed content := by
  have length : (lengthField content).concealed = lengthField content :=
    Field.concealed_of_other (by decide : sameName FieldName.contentLength FieldName.authorization =
      false)
  unfold framed
  split
  · rfl
  · rw [concealed_setDefault, length]

/-- Requests are built again without a look at what is concealed. -/
theorem Request.concealed_rebuild (r : Request) (url : Url) (h : Headers) :
    (r.rebuild url h).concealed = r.rebuild url h.concealed := by
  have headers : (r.rebuild url h).headers.concealed = (r.rebuild url h.concealed).headers := by
    rw [rebuild_headers, rebuild_headers, ← Headers.concealed_framed, leadingFields_concealed]
    simp only [Headers.concealed, List.map_append, leadingFields_map_concealed]
  rw [concealed, headers]
  rfl

theorem Site.ofRequest_concealed (url : Url) (h : Headers) :
    ofRequest url h.concealed = ofRequest url h := by
  have host : sameName FieldName.authorization FieldName.host = false := by decide
  simp only [ofRequest, Headers.lostName?_concealed, h.get?_concealed host]

/-- Whether cookies can be presented does not depend on what is concealed. -/
theorem CookieJar.present_concealed (jar : CookieJar) (now : Int) (url : Url) (h : Headers) :
    (jar.present now url h.concealed).map
    (fun _ => ()) = (jar.present now url h).map fun _ => () := by
  unfold present
  rw [Site.ofRequest_concealed, Headers.contains_concealed, Headers.charset_concealed]
  cases jar.isEmpty with
  | true => rfl
  | false =>
    cases Site.ofRequest url h with
    | error error => rfl
    | ok site =>
      cases text : jar.presented now site with
      | error error => simp [bind, Except.bind, text]
      | ok text' =>
        cases nothing : text'.isEmpty || h.contains FieldName.cookie with
        | true => simp [bind, Except.bind, text, nothing]; rfl
        | false =>
          cases value : h.charset.encode? text' with
          | error error => simp [bind, Except.bind, text, nothing, value, Except.mapError]
          | ok value' => simp [bind, Except.bind, text, nothing, value, Except.mapError]; rfl

end Http

namespace Exchange

variable [Codecs] (request : Http.Request)

theorem targetFields_concealed (url : Url) (status : Int) :
    targetFields request.concealed url status = (targetFields request url status).concealed := by
  have host : ∀ value, (Http.Field.mk Http.FieldName.host value).concealed =
    ⟨Http.FieldName.host, value⟩ :=
    fun _ => Http.Field.concealed_of_other
      (by decide : Http.sameName Http.FieldName.host Http.FieldName.authorization = false)
  simp only [targetFields, Http.Headers.concealed_erase, apply_ite Http.Headers.concealed,
    Http.Headers.concealed_set, host, Http.Request.concealed]
  rfl

theorem checkRedirect_concealed (now : Int) (cookies : Http.CookieJar) (response : Http.Response) :
    checkRedirect now cookies request.concealed response =
      checkRedirect now cookies request response := by
  have presented : ∀ url, ((cookies.present now url
      (targetFields request.concealed url response.status)).mapError Error.site).map (fun _ => ()) =
      ((cookies.present now url (targetFields request url response.status)).mapError Error.site).map
        fun _ => () := by
    intro url
    have apart : ∀ x : Except Http.SiteError Http.Headers,
        (x.mapError Error.site).map (fun _ => ()) = (x.map fun _ => ()).mapError Error.site := by
      intro x
      cases x <;> rfl
    rw [apart, apart, targetFields_concealed, Http.CookieJar.present_concealed]
  unfold checkRedirect
  simp only [presented]
  rfl

/-- What an exchange gives does not depend on what is concealed. -/
theorem complete_concealed (now : Int) (cookies : Http.CookieJar) (outcome : Outcome) :
    complete now cookies request.concealed outcome = complete now cookies request outcome := by
  have site : Http.Site.ofRequest request.concealed.url request.concealed.headers =
      Http.Site.ofRequest request.url request.headers := Http.Site.ofRequest_concealed _ _
  cases outcome with
  | fault fault => rfl
  | answer response =>
    unfold complete
    rw [site]
    simp only [checkRedirect_concealed]

omit [Codecs] in
theorem authorizationField_concealed (credentials : Credentials) :
    (authorizationField credentials).concealed = ⟨Http.FieldName.authorization, []⟩ := by
  have ascii := authorizationField_ascii credentials
  unfold authorizationField at ascii ⊢
  simp [Http.Field.concealed, ascii]

omit [Codecs] in
/-- On the wire, credentials in the URL stand in for what is concealed. -/
theorem onWire_concealed :
    onWire request.concealed =
      if (urlCredentials? request.url).isSome then onWire request else request.concealed := by
  have url : request.concealed.url = request.url := rfl
  have replaced : ∀ username password,
    request.concealed.headers.set (basicField username password) =
      request.headers.set (basicField username password) :=
    fun username password => request.headers.set_concealed _ (Http.sameName_self _)
  unfold onWire urlCredentials?
  rw [url]
  simp only [replaced]
  split
  · rfl
  · rfl

omit [Codecs] in
/-- Requests that are the same but for what is concealed reach the transport so, and as the very
    same one if the URL has credentials. -/
theorem onWire_alike {request request' : Http.Request}
    (same : request'.concealed = request.concealed) :
    (onWire request').concealed = (onWire request).concealed ∧
      ((urlCredentials? request.url).isSome = true → onWire request' = onWire request) := by
  have url := (Http.Request.line_of_concealed same).2
  have wires := onWire_concealed request'
  rw [same, onWire_concealed, url] at wires
  cases given : urlCredentials? request.url with
  | some credentials =>
    simp only [given, Option.isSome_some, if_true] at wires
    rw [wires]
    exact ⟨rfl, fun _ => rfl⟩
  | none =>
    have bare : ∀ r : Http.Request, urlCredentials? r.url = none → onWire r = r := by
      intro r none
      unfold urlCredentials? at none
      unfold onWire
      split at none
      · rename_i plain
        simp only [plain, if_true]
      · cases none
    rw [bare request given, bare request' (by rw [url]; exact given)]
    exact ⟨same, by simp⟩

end Exchange

end Courier
