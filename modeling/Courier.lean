import Courier.Client.Execute
import Courier.Config.Lineage
import Courier.Json.Read
import Courier.Log.Emit
import Courier.Log.Line
import Courier.Proofs.Number
import Courier.Proofs.Answers
import Courier.Proofs.Course
import Courier.Proofs.Exchange
import Courier.Proofs.Framing
import Courier.Proofs.Reachable
import Courier.Proofs.Limits
import Courier.Proofs.Merging
import Courier.Proofs.Terminal
import Courier.Proofs.CacheHistory
import Courier.Proofs.Injection
import Courier.Proofs.Closing
import Courier.Proofs.Authorization
import Courier.Proofs.Confinement
import Courier.Proofs.Carriage
import Courier.Proofs.Afresh
import Courier.Proofs.Contacts
import Courier.Proofs.Indistinguishable
import Courier.Proofs.Retrials
import Courier.Proofs.SecureChannel
import Courier.Proofs.StoreHistory
import Courier.Proofs.Sharing
import Courier.Proofs.Servers
import Courier.Proofs.Resending
import Courier.Proofs.Origins
import Courier.Proofs.Account
import Courier.Proofs.Hostless
import Courier.Proofs.Fragments
import Courier.Proofs.Base64
import Courier.Proofs.Reading
import Courier.Proofs.Proxies
