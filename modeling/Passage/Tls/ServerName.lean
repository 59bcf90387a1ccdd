import Passage.Fault
import Passage.Net.IpLiteral
import Passage.Text.Alphanumeric
import Passage.Text.Utf8

namespace Passage.Tls

def isNameChar (c : Char) : Bool :=
  Text.isAlphanumeric c || c = '-' || c = '.' || c = ':'

/-- The host without its trailing dots, if it can be a host name at all: not empty, at most 253 bytes,
and made of letters, digits, hyphens, dots and colons. -/
def hostName (host : String) : Except Misconfiguration String :=
  let name := (host.toList.reverse.dropWhile (· = '.')).reverse
  let trimmed := String.ofList name
  if name.isEmpty ∨ 253 < (Text.bytes trimmed).length ∨ ¬ name.all isNameChar then
    .error (.invalidHostName trimmed)
  else .ok trimmed

/-- A label of a DNS name: up to 63 ASCII letters, digits and hyphens, no hyphen at either end. -/
def isLabel (label : List Char) : Bool :=
  !label.isEmpty && label.length ≤ 63 &&
    label.all (fun c => c.isAlphanum || c = '-') &&
    label.head? != some '-' && label.getLast? != some '-'

def isDnsName (name : String) : Bool :=
  (Text.splitAll '.' name.toList).all isLabel

/-- The name to check for a configured host: an IP literal or a DNS name. -/
def serverName (host : String) : Except Misconfiguration String :=
  match hostName host with
  | .error defect => .error defect
  | .ok name =>
    if (ipLiteral? name).isSome || isDnsName name then .ok name
    else .error (.invalidServerName host)

end Passage.Tls
