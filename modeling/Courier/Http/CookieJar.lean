import Courier.Http.Cookie

/-!
# Cookie jars

A client keeps the cookies that responses set in a jar, and presents those for a site together: the
ones with the longest paths first, and otherwise by domain, by path and by name, each in the order
in which it came into the jar. Domains and paths keep their places when their cookies are gone.
-/

namespace Courier.Http

/-- The cookies of a client. -/
structure CookieJar where
  /-- The domains with their paths, in the order in which they came. -/
  places : List (List Char × List Char)
  cookies : List Cookie
  deriving DecidableEq, Repr, Inhabited

namespace CookieJar

/-- A jar without cookies. -/
def empty : CookieJar := ⟨[], []⟩

/-- Whether a jar has no cookies. -/
def isEmpty (jar : CookieJar) : Bool := jar.cookies.isEmpty

/-- The jar without a cookie. -/
def erase (jar : CookieJar) (cookie : Cookie) : CookieJar :=
  { jar with cookies := jar.cookies.filter (!·.isSame cookie) }

/-- The jar with a cookie, which takes the place of the same one with another value. -/
def insert (jar : CookieJar) (cookie : Cookie) : CookieJar where
  places :=
    let place := (cookie.domain, cookie.path)
    if jar.places.contains place then jar.places else jar.places ++ [place]
  cookies :=
    if jar.cookies.any (·.isSame cookie) then
      jar.cookies.map fun c => if c.isSame cookie then cookie else c
    else jar.cookies ++ [cookie]

/-- The cookies that fields set at a site, with what the fields say, and the jar without those whose
    time is over. There are none if one of them cannot be made. -/
def gather (jar : CookieJar) (now : Int) (site : Site) :
    List Cookie.Given → CookieJar × Option (List (Cookie × Cookie.Attributes))
  | [] => (jar, some [])
  | given :: rest =>
    match given.attributes.version?.map (Cookie.create site given) with
    | none => jar.gather now site rest
    | some (.error _) => (jar, none)
    | some (.ok cookie) =>
      if cookie.isOver now then (jar.erase cookie).gather now site rest
      else
        let (jar, cookies) := jar.gather now site rest
        (jar, cookies.map ((cookie, given.attributes) :: ·))

/-- The jar after a response of a site, which sets cookies by these fields, and the error that kept
    further cookies out of it, if there is one. -/
def receive (jar : CookieJar) (now : Int) (site : Site) (fields : List (List Char)) :
    CookieJar × Except SiteError Unit :=
  let given := fields.map (Cookie.ofField now)
  if given.any (· matches .error .allCookies) then (jar, .ok ())
  else
    let (jar, cookies) := jar.gather now site (given.filterMap fun field => field.toOption.join)
    (cookies.getD []).foldl (fun (jar, done) (cookie, attributes) =>
      match done.bind fun _ => cookie.isAccepted attributes site with
      | .error error => (jar, .error error)
      | .ok accepted => (if accepted then jar.insert cookie else jar, .ok ())) (jar, .ok ())

/-- The cookies by domain and path. -/
def inOrder (jar : CookieJar) : List Cookie :=
  (jar.places.map Prod.fst).eraseDups.flatMap fun domain =>
    (jar.places.filter (·.1 = domain)).flatMap fun (_, path) =>
      jar.cookies.filter fun cookie => cookie.domain = domain ∧ cookie.path = path

/-- Cookies ordered by the length of their paths, with one more in front of those with paths as
    long. -/
def insertByPath (cookie : Cookie) : List Cookie → List Cookie
  | [] => [cookie]
  | c :: rest =>
    if c.path.length ≤ cookie.path.length then cookie :: c :: rest
    else c :: insertByPath cookie rest

/-- What a jar presents to a site: nothing if it has no cookies for it. -/
def presented (jar : CookieJar) (now : Int) (site : Site) : Except SiteError (List Char) := do
  let cookies ← jar.inOrder.filterM (·.isPresented now site)
  return [';', ' '].intercalate ((cookies.foldr insertByPath []).map Cookie.presented)

/-- The fields of a request for a URL with the cookies of the jar. A request that has cookies
    already gets no others, and an empty jar does not look at the request. -/
def present (jar : CookieJar) (now : Int) (url : Url) (headers : Headers) :
    Except SiteError Headers :=
  if jar.isEmpty then .ok headers
  else do
    let text ← jar.presented now (← Site.ofRequest url headers)
    if text.isEmpty || headers.contains FieldName.cookie then return headers
    else
      let value ← (headers.charset.encode? text).mapError .unencodable
      return headers.set ⟨FieldName.cookie, value⟩

end CookieJar

end Courier.Http
