import Courier.Config.Limits
import Courier.Text.Raw

/-!
# Proxy settings
-/

namespace Courier

/-- A proxy, with the credentials for it if it asks for them. -/
structure ProxyConfig where
  host : String
  port : Int
  username : Option RawText
  password : Option RawText
  deriving DecidableEq, Repr, Inhabited

namespace ProxyConfig

/-- The settings, if the host is not empty and the port in its range. -/
def create (host : String) (port : Int) (username password : Option RawText) :
    Except Config.Error ProxyConfig := do
  if host.isEmpty then throw .emptyProxyHost
  Config.checkPort (.integer port)
  return { host, port, username, password }

/-- The text of the URL of the proxy. -/
def url (p : ProxyConfig) : String := s!"http://{p.host}:{p.port}"

/-- A password as it is shown: hidden, or absent. -/
def hidden (password : Option RawText) : String :=
  if password.isSome then "'***'" else "None"

/-- The text that shows the settings. -/
def shown (p : ProxyConfig) : String :=
  s!"ProxyConfig(host={Text.quotedString p.host}, port={p.port}, "
    ++ s!"username={RawText.quotedOption p.username}, password={hidden p.password})"

end ProxyConfig

end Courier
