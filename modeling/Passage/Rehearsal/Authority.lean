import Passage.Net.IpLiteral
import Passage.Tls.Settings
import Passage.Text.Utf8

namespace Passage.Rehearsal

def certificate (name : String) : List UInt8 := Text.bytes name

def knownAuthority : List UInt8 := certificate "test"

def stranger : List UInt8 := certificate "other"

def isParsable (body : List UInt8) : Bool :=
  body == knownAuthority || body == stranger

/-- The files with certificates that go by a name; any other text is a file of that content. -/
def sectionsOf (content : String) : Option (List Pem.Section) :=
  let holding (body : List UInt8) : Pem.Section := ⟨"CERTIFICATE", body⟩
  match content with
  | "test" => some [holding knownAuthority]
  | "other" => some [holding stranger]
  | "both" => some [holding knownAuthority, holding stranger]
  | "key" => some [⟨"PRIVATE KEY", []⟩]
  | text => Pem.read text

def certifiedNames : List String := ["db.internal", "localhost"]

/-- Any one label in front of this is certified too. -/
def certifiedZone : List Char := ".wild.internal".toList

def certifiedAddresses : List (List UInt8) :=
  [[127, 0, 0, 1], List.replicate 15 0 ++ [1]]

def isCertified (name : String) : Bool :=
  match ipLiteral? name with
  | some octets => octets ∈ certifiedAddresses
  | none =>
    let lower := name.toLower
    let label := lower.toList.takeWhile (· ≠ '.')
    lower ∈ certifiedNames ||
      (!label.isEmpty && lower.toList.drop label.length == certifiedZone)

def vouches (settings : Tls.Settings) (name : String) : Bool :=
  match settings.roots with
  | .unchecked => true
  | .system => false
  | .custom certificates => certificates.contains knownAuthority && isCertified name

end Passage.Rehearsal
