import Passage.Fault
import Passage.Net.Endpoint
import Passage.Text.Blank

namespace Passage

structure JumpHost where
  host : String
  port : UInt16 := 22
  username : String
  privateKey : String
  passphrase : Option String := none
  deriving DecidableEq

namespace JumpHost

def endpoint (j : JumpHost) : Endpoint := ⟨j.host, j.port⟩

/-- The jump host as it is shown: the login and the address. -/
def label (j : JumpHost) : String :=
  j.username ++ "@" ++ j.endpoint.text

/-- Diagnostic text without the key and its passphrase. -/
def debug (j : JumpHost) : String :=
  Quoted.record "SshConfig"
    [("host", Quoted.text j.host), ("port", toString j.port.toNat),
      ("username", Quoted.text j.username), ("private_key", Quoted.text "<redacted>")]

def defect? (j : JumpHost) : Option Misconfiguration :=
  if Text.blank j.host then some .sshHostMissing
  else if j.username.isEmpty then some .sshUserMissing
  else if Text.blank j.privateKey then some .sshKeyMissing
  else none

end JumpHost
end Passage
