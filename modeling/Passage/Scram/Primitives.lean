import Passage.Crypto.Hmac
import Passage.Text.Utf8

namespace Passage.Scram

open Sha256 (Digest)

/-- The functions that an exchange takes as given. -/
structure Primitives where
  hash : List UInt8 → Digest
  /-- The key, then the message. -/
  sign : List UInt8 → List UInt8 → Digest
  /-- The password, the salt and the number of rounds. -/
  derive : List UInt8 → List UInt8 → Nat → Digest

def Primitives.sha256 : Primitives := ⟨Sha256.digest, hmac, pbkdf2⟩

structure Keys where
  client : Digest
  server : Digest

def Primitives.keys (p : Primitives) (password salt : List UInt8) (count : Nat) : Keys :=
  let salted := p.derive password salt count
  ⟨p.sign salted.val (Text.bytes "Client Key"), p.sign salted.val (Text.bytes "Server Key")⟩

end Passage.Scram
