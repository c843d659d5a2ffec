import Courier.Config.Proxy

/-!
# Client settings

Settings are built from the defaults by an override for each field that is given, and merged with
further overrides later; every time the outcome has to satisfy the limits. A negative number of
retries selects the default number.
-/

namespace Courier

/-- The settings of a client. -/
structure Config where
  username : Option RawText
  password : Option RawText
  timeout : Number
  proxy : Option ProxyConfig
  maxRetries : Number
  retryInterval : Number
  maxRedirects : Number
  deriving DecidableEq, Repr, Inhabited

namespace Config

/-- The default of `timeout`, in seconds. -/
def defaultTimeout : Number := .float (.ofDecimal false 300 0)

/-- The number of retries that a negative one stands for. -/
def defaultRetryCount : Number := 3

/-- The default of `retryInterval`, in seconds: a retry follows at once. -/
def defaultRetryInterval : Number := .float (.ofDecimal false 0 0)

/-- The default of `maxRedirects`. -/
def defaultMaxRedirects : Number := 50

/-- The number of connections kept. -/
def poolSize : Nat := 10

/-- The user name that stands for a missing one. -/
def anonymousUsername : String := "anonymous"

/-- The name of the product. -/
def productName : String := "ArtifactoryBuildClient"

/-- The version of the product. -/
def version : String := "0.1.0"

/-- How the client names itself to servers. -/
def userAgent : String := s!"{productName}/{version}"

/-- The settings that nothing was given for. -/
def default : Config where
  username := none
  password := none
  timeout := defaultTimeout
  proxy := none
  maxRetries := .integer (-1)
  retryInterval := defaultRetryInterval
  maxRedirects := defaultMaxRedirects

/-- Values for some of the settings. -/
structure Overrides where
  username : Option RawText
  password : Option RawText
  timeout : Option Number
  proxy : Option ProxyConfig
  maxRetries : Option Number
  retryInterval : Option Number
  maxRedirects : Option Number
  deriving DecidableEq, Repr, Inhabited

/-- The overrides that change nothing. -/
def Overrides.none : Overrides := ⟨.none, .none, .none, .none, .none, .none, .none⟩

/-- The overrides in which those of `second` win over those of `first`. -/
def Overrides.union (first second : Overrides) : Overrides where
  username := second.username <|> first.username
  password := second.password <|> first.password
  timeout := second.timeout <|> first.timeout
  proxy := second.proxy <|> first.proxy
  maxRetries := second.maxRetries <|> first.maxRetries
  retryInterval := second.retryInterval <|> first.retryInterval
  maxRedirects := second.maxRedirects <|> first.maxRedirects

/-- The settings with overrides in their places. -/
def override (c : Config) (o : Overrides) : Config where
  username := o.username <|> c.username
  password := o.password <|> c.password
  timeout := o.timeout.getD c.timeout
  proxy := o.proxy <|> c.proxy
  maxRetries := o.maxRetries.getD c.maxRetries
  retryInterval := o.retryInterval.getD c.retryInterval
  maxRedirects := o.maxRedirects.getD c.maxRedirects

/-- Refuses settings beyond their limits. -/
def check (c : Config) : Except Error Unit := do
  checkTimeout c.timeout
  checkRetryInterval c.retryInterval
  checkMaxRedirects c.maxRedirects

/-- The settings with overrides in their places, if they keep the limits. -/
def merge (c : Config) (o : Overrides) : Except Error Config := do
  (c.override o).check
  return c.override o

/-- The settings that the values given make. -/
def create (given : Overrides) : Except Error Config := default.merge given

/-- Whether an override, if there is one, has the value it replaces. -/
def keeps {α : Type} (same : α → α → Bool) (old : α) (override : Option α) : Bool :=
  override.all (same old)

/-- Whether the settings equal those that overrides make of them. A setting that is not overridden
    equals itself; one that is has to have the same value, which a NaN never has. -/
def unchangedBy (c : Config) (o : Overrides) : Bool :=
  (o.username.isNone || o.username == c.username)
    && (o.password.isNone || o.password == c.password)
    && keeps Number.same c.timeout o.timeout
    && (o.proxy.isNone || o.proxy == c.proxy)
    && keeps Number.same c.maxRetries o.maxRetries
    && keeps Number.same c.retryInterval o.retryInterval
    && keeps Number.same c.maxRedirects o.maxRedirects

/-- The number of retries after the first attempt. -/
def retryCount (c : Config) : Number :=
  if c.maxRetries.less 0 then defaultRetryCount else c.maxRetries

/-- The text that shows the settings. -/
def shown (c : Config) : String :=
  let proxy := match c.proxy with
    | some proxy => proxy.shown
    | .none => "None"
  s!"ClientConfig(username={RawText.quotedOption c.username}, "
    ++ s!"password={ProxyConfig.hidden c.password}, timeout={c.timeout}, proxy={proxy}, "
    ++ s!"max_retries={c.maxRetries}, retry_interval={c.retryInterval}, "
    ++ s!"max_redirects={c.maxRedirects})"

end Config

end Courier
