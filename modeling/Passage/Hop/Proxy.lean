import Passage.Fault
import Passage.Net.Endpoint
import Passage.Target.Sanitized
import Passage.Text.Blank

namespace Passage

structure Proxy where
  host : String
  port : UInt16
  userId : Option String := none
  password : Option String := none
  deriving DecidableEq

namespace Proxy

def endpoint (p : Proxy) : Endpoint := ⟨p.host, p.port⟩

/-- The proxy's address as it is shown: a password is hidden, and is left out without a user. -/
def address (p : Proxy) : String :=
  let login :=
    match p.userId, p.password with
    | some user, some _ => user ++ ":" ++ hiddenPassword ++ "@"
    | some user, none => user ++ "@"
    | none, _ => ""
  "socks5://" ++ login ++ p.endpoint.text

def debug (p : Proxy) : String := p.address

def defect? (p : Proxy) : Option Misconfiguration :=
  if Text.blank p.host then some .proxyHostMissing
  else if p.port = 0 then some .proxyPortMissing
  else if p.password.isSome && p.userId.isNone then some .proxyUserMissing
  else none

end Proxy
end Passage
