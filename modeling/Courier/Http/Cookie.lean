import Courier.Http.Expiry
import Courier.Http.Site

/-!
# Cookies

A `Set-Cookie` field has the name and the value of a cookie up to the first semicolon, and then
attributes, of which the first one of a name counts. A maximum age counts more than a date.

A cookie is accepted from the site it belongs to, or from a site in the domain that it names, on one
of the ports that it names. It is presented to the sites in its domain under its path, if the way
there is as secure as it asks for.
-/

namespace Courier.Http

/-- A cookie. Domain, path and name tell it from others. -/
structure Cookie where
  domain : List Char
  path : List Char
  name : List Char
  value : Option (List Char)
  /-- Zero or less: cookies of the first version are taken for cookies without one. -/
  version : Int
  isSecure : Bool
  /-- The ports it is for, separated by commas. -/
  ports : Option (List Char)
  /-- The second at which its time is over. -/
  expiry : Option Int
  deriving DecidableEq, Repr

namespace Cookie

/-- A port attribute. -/
inductive PortAttribute where
  /-- The port of the site is meant. -/
  | own
  | named (ports : List Char)
  deriving DecidableEq, Repr

/-- What the attributes of a cookie say. -/
structure Attributes where
  domain : Option (List Char)
  path : Option (List Char)
  version : Option (List Char)
  isSecure : Option Bool
  port : Option PortAttribute
  /-- The second at which the time of the cookie is over. -/
  expiry : Option Int
  /-- Whether the expiry comes from a maximum age. -/
  aged : Bool

/-- No attributes. -/
def Attributes.empty : Attributes := ⟨none, none, none, none, none, none, false⟩

/-- What a field says. -/
structure Given where
  name : List Char
  value : Option (List Char)
  attributes : Attributes

/-- Why a field sets no cookie. -/
inductive Refusal where
  /-- An attribute makes this cookie void. -/
  | thisCookie
  /-- An attribute makes all cookies of the response void. -/
  | allCookies
  deriving DecidableEq, Repr

/-- A text without quotes around it. -/
def unquoted (cs : List Char) : List Char :=
  let cs := if cs.head? = some '"' then cs.drop 1 else cs
  if cs.getLast? = some '"' then cs.dropLast else cs

/-- The parts of a field: a key, and a value if there is an equals sign. -/
def parts (cs : List Char) : List (List Char × Option (List Char)) :=
  (Url.Host.splitOn ';' cs).map fun part =>
    let part := Text.strip part
    let key := part.takeWhile (· ≠ '=')
    let value := if part.contains '=' then some (Text.strip (part.drop (key.length + 1))) else none
    (Text.strip key, value)

/-- The attributes with one more. -/
def addAttribute (now : Int) (a : Attributes) (key : List Char) (value : Option (List Char)) :
    Except Refusal Attributes :=
  match Text.lower (String.ofList key), value with
  | "domain", none => if a.domain.isSome then .ok a else .error .thisCookie
  | "path", none => if a.path.isSome then .ok a else .error .thisCookie
  | "version", none => if a.version.isSome then .ok a else .error .thisCookie
  | "domain", some v =>
    .ok { a with domain := a.domain <|> some (Text.lower (String.ofList v)).toList }
  | "path", some v => .ok { a with path := a.path <|> some v }
  | "version", some v => .ok { a with version := a.version <|> some (unquoted v) }
  | "secure", v => .ok { a with isSecure := a.isSecure <|> some (v != some []) }
  | "port", v => .ok { a with port := a.port <|> some (v.elim .own .named) }
  | "expires", some v =>
    .ok (match a.aged, Expiry.read now (unquoted v) with
      | false, .second s => { a with expiry := a.expiry <|> some s }
      | _, _ => a)
  | "max-age", none => .error .allCookies
  | "max-age", some v =>
    match Text.integer? v with
    | some age => .ok { a with expiry := some (now + age), aged := true }
    | none => .error .thisCookie
  | _, _ => .ok a

/-- What a field says; nothing if it has no name. -/
def ofField (now : Int) (cs : List Char) : Except Refusal (Option Given) :=
  match parts cs with
  | [] | ([], _) :: _ => .ok none
  | (name, value) :: rest =>
    let isMisnamed : List Char × Option (List Char) → Bool
      | (key, some v) => Text.lower (String.ofList key) == "expires"
          && Expiry.read now (unquoted v) == .misnamed
      | _ => false
    if rest.any isMisnamed then .error .allCookies
    else
      (rest.foldlM (fun a (key, value) => addAttribute now a key value) .empty).map
        fun attributes =>
        some ⟨name, value, attributes⟩

/-- The version that a field names; none if it is no integer. -/
def Attributes.version? (a : Attributes) : Option Int :=
  match a.version with
  | none => some 0
  | some version => Text.integer? version

/-- The cookie of a version that a field sets at a site. -/
def create (site : Site) (given : Given) (version : Int) : Except SiteError Cookie := do
  let a := given.attributes
  let ports ← match a.port with
    | none => pure none
    | some .own => site.port?
    | some (.named ports) => pure (some (ports.filter (!Text.isBlank ·)))
  return {
    name := given.name
    value := given.value
    path := match a.path with
      | some (c :: rest) => Site.comparedPath (c :: rest)
      | _ => site.directory (version != 0)
    domain := (a.domain.map Site.pointed).getD site.fullHost
    version := if version = 1 then 0 else version
    isSecure := a.isSecure.getD false
    ports
    expiry := a.expiry }

/-- Whether two cookies are one and the same, maybe with different values. -/
def isSame (a b : Cookie) : Bool := a.domain == b.domain && a.path == b.path && a.name == b.name

/-- Whether the time of a cookie is over. -/
def isOver (cookie : Cookie) (now : Int) : Bool := cookie.expiry.any (· ≤ now)

/-- Whether a cookie may name its domain at a site. A local host may name itself, with or without
    the ending of local hosts. -/
def fitsDomain (cookie : Cookie) (site : Site) : Bool :=
  let named := cookie.domain.drop 1
  (named.contains '.' || endsIn Site.localEnding site.fullHost)
    && (cookie.version != 0 || site.fullHost.head? == some '.'
      || endsIn cookie.domain ('.' :: site.fullHost)
      || endsIn (named ++ Site.localEnding) site.fullHost)

/-- Whether the port of a site is among the named ones, which have to be integers up to there. -/
def isAmong (port : List Char) : List (List Char) → Bool
  | [] => false
  | named :: rest => (Text.integer? named).isSome && (named == port || isAmong port rest)

/-- Whether a cookie that a field sets is accepted from a site. -/
def isAccepted (cookie : Cookie) (attributes : Attributes) (site : Site) : Except SiteError Bool :=
  if 0 < cookie.version || (attributes.domain.isSome && !cookie.fitsDomain site) then .ok false
  else
    match attributes.port with
    | some (.named _) => do
      return isAmong ((← site.port?).getD ['8', '0'])
        (Url.Host.splitOn ',' (cookie.ports.getD []))
    | _ => .ok true

/-- Whether a cookie is presented to a site. -/
def isPresented (cookie : Cookie) (now : Int) (site : Site) : Except SiteError Bool := do
  if !(site.isIn cookie.domain && site.isUnder cookie.path) || (cookie.isSecure && !site.isSecure)
    || cookie.isOver now
  then return false
  let isForPort ← match cookie.ports with
    | none | some [] => pure true
    | some ports =>
      pure ((Url.Host.splitOn ',' ports).contains ((← site.port?).getD ['8', '0']))
  return isForPort
    && (cookie.version != 0 || endsIn (Site.pointed cookie.domain) ('.' :: site.fullHost))

/-- A cookie as it is presented. -/
def presented (cookie : Cookie) : List Char :=
  match cookie.value with
  | some value => cookie.name ++ '=' :: value
  | none => cookie.name

end Cookie

end Courier.Http
