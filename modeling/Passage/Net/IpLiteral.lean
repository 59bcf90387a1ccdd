import Passage.Json.Document
import Passage.Text.Split

namespace Passage

/-- An octet of a dotted address: at most 255, and no leading zero. -/
def octet? (text : List Char) : Option UInt8 :=
  match text with
  | [] => none
  | '0' :: _ :: _ => none
  | '+' :: _ => none
  | _ => (Text.numeral? 255 text).map UInt8.ofNat

def ipv4? (text : List Char) : Option (List UInt8) :=
  match Text.splitAll '.' text with
  | [a, b, c, d] => [a, b, c, d].mapM octet?
  | _ => none

/-- A group of an IPv6 literal: one to four hex digits, as two bytes. -/
def group? (text : List Char) : Option (List UInt8) :=
  if text.isEmpty ∨ 4 < text.length then none
  else
    (text.mapM Json.hexDigit?).map fun digits =>
      let n := digits.foldl (fun acc d => acc * 16 + d) 0
      [UInt8.ofNat (n / 256), UInt8.ofNat (n % 256)]

def groups? : List (List Char) → Option (List UInt8)
  | [] => some []
  | [last] => (group? last).or (ipv4? last)
  | first :: rest => do
    let head ← group? first
    let tail ← groups? rest
    return head ++ tail

def side? (text : List Char) : Option (List UInt8) :=
  if text.isEmpty then some [] else groups? (Text.splitAll ':' text)

/-- The bytes in front of the double colon, where no IPv4 literal may stand. -/
def frontSide? (text : List Char) : Option (List UInt8) :=
  if text.isEmpty then some []
  else ((Text.splitAll ':' text).mapM group?).map List.flatten

/-- The sixteen bytes of an IPv6 literal. A double colon stands for one zero group or more. -/
def ipv6? (text : List Char) : Option (List UInt8) :=
  match Text.splitAround "::".toList text with
  | none => (groups? (Text.splitAll ':' text)).filter (·.length = 16)
  | some (front, back) => do
    let front ← frontSide? front
    let back ← side? back
    if front.length + back.length ≤ 14 then
      return front ++ List.replicate (16 - front.length - back.length) 0 ++ back
    else none

theorem length_of_ipv4? {text : List Char} {octets : List UInt8} (read : ipv4? text = some octets) :
    octets.length = 4 := by
  unfold ipv4? at read
  split at read
  · next a b c d cut =>
    simp only [List.mapM_cons, List.mapM_nil, Option.bind_eq_bind, Option.pure_def,
      Option.bind_eq_some_iff, Option.some.injEq] at read
    obtain ⟨w, -, _, ⟨x, -, _, ⟨y, -, _, ⟨z, -, _, rfl, rfl⟩, rfl⟩, rfl⟩, rfl⟩ := read
    rfl
  · cases read

theorem length_of_ipv6? {text : List Char} {octets : List UInt8} (read : ipv6? text = some octets) :
    octets.length = 16 := by
  unfold ipv6? at read
  split at read
  · simpa using (Option.filter_eq_some_iff.mp read).2
  · next front back cut =>
    simp only [Option.bind_eq_bind, Option.bind_eq_some_iff, Option.ite_none_right_eq_some, Option.pure_def,
      Option.some.injEq] at read
    obtain ⟨front, -, back, -, small, rfl⟩ := read
    simp only [List.length_append, List.length_replicate]
    omega
/-- The bytes of an IP literal: four for IPv4, sixteen for IPv6. -/
def ipLiteral? (text : String) : Option (List UInt8) :=
  (ipv4? text.toList).or (ipv6? text.toList)

end Passage
