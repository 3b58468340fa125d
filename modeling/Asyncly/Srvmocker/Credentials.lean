import Asyncly.Client.ProxyCredential
import Asyncly.Lib.Base64
import Asyncly.Srvmocker.Proxy

/-!
# Credentials from the client to the mock proxy

The client encodes its proxy credentials and forwards them with the headers of a plain
request; the proxy compares them with the encoding of its own. End to end the comparison
is one of logins and passwords.
-/

namespace Asyncly

/-! ### Encoding -/

section Sent

variable {B V : Type} {rt : Runtime} {client : BaseHttpClient} {world : World B}
  {call : CallArgs B V} {user : String → ClientRequest → ClientRequest} {a : BasicAuth}

end Sent

/-! ### What the proxy does with it -/

namespace ProxyServer

variable {J : Type} (session : ForwardSession J) {s : ProxyServer J} {i : Nat} {request : Request}

end ProxyServer

namespace Sample

/-- The characters below 256, and an error for a text with another one. -/
def latin1 (text : String) : Except Exn Bytes :=
  if text.toList.all (·.toNat < 256) then .ok (text.toList.map fun c => UInt8.ofNat c.toNat)
  else .error (.valueError "ordinal not in range(256)")

end Sample

end Asyncly
