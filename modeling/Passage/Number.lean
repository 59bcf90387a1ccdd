import Passage.Number.Shortest
import Passage.Text.Numeral

namespace Passage

/-- A number with a sign of its own, so that there are two zeros among the doubles. -/
inductive Number where
  | integer (n : Int)
  | real (negative : Bool) (size : Binary64)
  deriving DecidableEq

/-- A digit always stands on both sides of the point. From 10^16 up and below 10^-5 one digit stands in front,
the point only if there are more, and the exponent has its sign. -/
def Digits.text (d : Digits) : String :=
  if 0 < d.point ∧ d.point ≤ 16 then
    let whole := d.digits.take d.point.toNat
    let fraction := d.digits.drop d.point.toNat
    String.ofList (whole ++ List.replicate (d.point.toNat - whole.length) '0') ++ "." ++
      (if fraction.isEmpty then "0" else String.ofList fraction)
  else if -5 < d.point ∧ d.point ≤ 0 then
    "0." ++ String.ofList (List.replicate (-d.point).toNat '0' ++ d.digits)
  else
    let exponent := d.point - 1
    String.ofList (d.digits.take 1) ++
      (if 1 < d.digits.length then "." ++ String.ofList (d.digits.drop 1) else "") ++
      "e" ++ (if exponent < 0 then "" else "+") ++ toString exponent

namespace Number

def text : Number → String
  | .integer n => toString n
  | .real negative size =>
    (if negative then "-" else "") ++ if size.significand = 0 then "0.0" else size.shortest.text

/-- The double for `n * 10 ^ exponent`, unless it is out of range. The power of ten is a double itself, and a
division by more than 10^308 takes two steps. -/
def scaled? (n : Nat) (exponent : Int) : Option Binary64 :=
  if n = 0 ∨ exponent < -616 then some .zero
  else if 308 < exponent then none
  else do
    let x ← Binary64.ofNat? n
    let power (k : Int) : Option Binary64 := Binary64.ofNat? (Nat.pow 10 k.toNat)
    if 0 ≤ exponent then x.times? (← power exponent)
    else if -308 ≤ exponent then x.over? (← power (-exponent))
    else (← x.over? (← power 308)).over? (← power (-exponent - 308))

/-- Appends digits to a number while 64 bits hold it, and tells which ones are left. -/
def appendDigits (n : Nat) : List Char → Nat × List Char
  | [] => (n, [])
  | c :: rest =>
    match Text.digit? c with
    | some d => if n * 10 + d < UInt64.size then appendDigits (n * 10 + d) rest else (n, c :: rest)
    | none => (n, c :: rest)

def exponentOf (text : List Char) : Int :=
  let size (digits : List Char) : Nat := digits.foldl (fun n c => n * 10 + (Text.digit? c).getD 0) 0
  match text.drop 1 with
  | '-' :: digits => -(size digits : Int)
  | '+' :: digits => size digits
  | digits => size digits

/-- The number that a literal stands for, unless it is out of range. Only leading digits that fit in 64 bits
count, those of the whole part apart from those of the fraction. A literal is an integer if it has neither a
fraction nor an exponent and 64 bits hold it, with a sign bit when it is negative; minus zero is a double. -/
def ofLiteral? (literal : List Char) : Option Number :=
  let negative := literal.head? = some '-'
  let unsigned := if negative then literal.drop 1 else literal
  let isMark (c : Char) : Bool := c = 'e' || c = 'E'
  let mantissa := unsigned.takeWhile fun c => !isMark c
  let exponent := unsigned.dropWhile fun c => !isMark c
  let whole := mantissa.takeWhile (· ≠ '.')
  let fraction := (mantissa.dropWhile (· ≠ '.')).drop 1
  let (n, uncounted) := appendDigits 0 whole
  if fraction.isEmpty ∧ exponent.isEmpty ∧ uncounted.isEmpty ∧ (negative → 0 < n ∧ n ≤ Nat.pow 2 63) then
    some (.integer (if negative then -n else n))
  else
    let (n, cut) := appendDigits n fraction
    let places : Int := fraction.length - cut.length
    (scaled? n (uncounted.length - places + exponentOf exponent)).map (.real negative)

end Number
end Passage
