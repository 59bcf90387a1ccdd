import Passage.Crypto.Base64
import Passage.Text.Split

namespace Passage.Pem

structure Section where
  label : String
  body : List UInt8
  deriving DecidableEq

/-- The kinds of section that are read; the others are passed over, whatever they hold. -/
def knownLabels : List String :=
  ["CERTIFICATE", "PUBLIC KEY", "RSA PRIVATE KEY", "PRIVATE KEY", "EC PRIVATE KEY", "X509 CRL",
    "CERTIFICATE REQUEST", "ECHCONFIG"]

def beginMark : List Char := "-----BEGIN ".toList

/-- The label of a BEGIN line, which ends in exactly five dashes, blanks aside. -/
def label? (line : List Char) : Option (List Char) :=
  let ending := line.reverse.takeWhile fun c => c = '-' || c = ' '
  let marks := ending.reverse.dropWhile (· = ' ')
  if ending.count '-' = 5 then
    some ((line.take (line.length - marks.length)).drop beginMark.length)
  else none

def isBlank (c : Char) : Bool :=
  c = ' ' || (9 ≤ c.toNat && c.toNat ≤ 13)

def bytesOfDigits : List Nat → List UInt8
  | a :: b :: c :: d :: rest =>
    UInt8.ofNat (a * 4 + b / 16) :: UInt8.ofNat (b % 16 * 16 + c / 4) ::
      UInt8.ofNat (c % 4 * 64 + d) :: bytesOfDigits rest
  | [a, b, c] => [UInt8.ofNat (a * 4 + b / 16), UInt8.ofNat (b % 16 * 16 + c / 4)]
  | [a, b] => [UInt8.ofNat (a * 4 + b / 16)]
  | _ => []

/-- The bytes of a section's lines. Blanks do not count, and padding may be left out but not be
wrong. -/
def decode (text : List Char) : Option (List UInt8) :=
  let kept := text.filter fun c => !isBlank c
  let digits := kept.takeWhile (· ≠ '=')
  let pad := kept.dropWhile (· ≠ '=')
  let fits := if pad.isEmpty then digits.length % 4 ≠ 1 else (digits.length + pad.length) % 4 = 0
  if pad.all (· = '=') ∧ pad.length ≤ 2 ∧ fits then
    (digits.mapM Base64.value?).map bytesOfDigits
  else none

/-- Reads the lines that follow. `opened` is the label of the section that the lines are in, and
`held` is what that section holds so far; a section must be closed before the file ends. -/
def readLines (opened : Option (List Char)) (held : List Char) :
    List (List Char) → Option (List Section)
  | [] => if opened.isSome then none else some []
  | line :: lines =>
    if beginMark.isPrefixOf line then
      match label? line with
      | some label => readLines (some label) held lines
      | none => none
    else
      match opened with
      | none => readLines none held lines
      | some label =>
        if ("-----END ".toList ++ label ++ "-----".toList).isPrefixOf line then
          if String.ofList label ∈ knownLabels then
            match decode held with
            | some body =>
              (readLines none [] lines).map fun sections => ⟨String.ofList label, body⟩ :: sections
            | none => none
          else readLines none [] lines
        else readLines opened (held ++ line) lines

def read (text : String) : Option (List Section) :=
  let lines := (Text.splitAll '\n' text.toList).flatMap (Text.splitAll '\r')
  readLines none [] lines

def certificates (sections : List Section) : List (List UInt8) :=
  sections.filterMap fun s => if s.label = "CERTIFICATE" then some s.body else none

end Passage.Pem
