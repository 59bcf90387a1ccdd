import Passage.Text.Split
import Passage.Text.Unprintable

namespace Passage.Quoted

def hex (n : Nat) : List Char := Nat.toDigits 16 n

/-- One character between quotes of the given kind; the other kind of quote stands for itself. -/
def escape (quote c : Char) : List Char :=
  if c.toNat = 0 then ['\\', '0']
  else if c = '\t' then ['\\', 't']
  else if c = '\r' then ['\\', 'r']
  else if c = '\n' then ['\\', 'n']
  else if c = '\\' ∨ c = quote then ['\\', c]
  else if Text.isUnprintable c then ['\\', 'u', '\x7b'] ++ hex c.toNat ++ ['\x7d']
  else [c]

def text (s : String) : String :=
  String.ofList ('"' :: s.toList.flatMap (escape '"') ++ ['"'])

def char (c : Char) : String :=
  String.ofList ('\'' :: escape '\'' c ++ ['\''])

/-- One byte of a byte string: ASCII that prints stands for itself, the rest is two hex digits. -/
def escapeByte (b : UInt8) : List Char :=
  if b = 10 then ['\\', 'n']
  else if b = 13 then ['\\', 'r']
  else if b = 9 then ['\\', 't']
  else if b = 0 then ['\\', '0']
  else if b = 34 ∨ b = 92 then ['\\', Char.ofNat b.toNat]
  else if 0x20 ≤ b ∧ b < 0x7F then [Char.ofNat b.toNat]
  else ['\\', 'x', Nat.digitChar (b.toNat / 16), Nat.digitChar (b.toNat % 16)]

def bytes (data : List UInt8) : String :=
  String.ofList (['b', '"'] ++ data.flatMap escapeByte ++ ['"'])

def wrapped (name value : String) : String :=
  name ++ "(" ++ value ++ ")"

def option {α : Type} (shown : α → String) : Option α → String
  | none => "None"
  | some a => wrapped "Some" (shown a)

def list {α : Type} (shown : α → String) (values : List α) : String :=
  "[" ++ Text.joinWith ", " (values.map shown) ++ "]"

def record (name : String) (fields : List (String × String)) : String :=
  name ++ " \x7b " ++
    Text.joinWith ", " (fields.map fun (field, value) => field ++ ": " ++ value) ++ " \x7d"

/-- A duration: seconds with the milliseconds as a fraction, or milliseconds alone below a second. -/
def duration (millis : Nat) : String :=
  if millis = 0 then "0ns"
  else if millis < 1000 then toString millis ++ "ms"
  else
    let fraction := millis % 1000
    let digits :=
      [fraction / 100, fraction / 10 % 10, fraction % 10].map Nat.digitChar
    let kept := (digits.reverse.dropWhile (· = '0')).reverse
    toString (millis / 1000) ++ (if kept.isEmpty then "" else "." ++ String.ofList kept) ++ "s"

end Passage.Quoted
