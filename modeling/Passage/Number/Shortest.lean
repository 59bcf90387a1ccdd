import Passage.Number.Binary64

namespace Passage

/-- The number `0.d₁d₂… * 10 ^ point` with the digits in order. -/
structure Digits where
  digits : List Char
  point : Int
  deriving DecidableEq

def Digits.ofNat (n : Nat) (place : Int) : Digits :=
  let digits := Nat.toDigits 10 n
  ⟨(digits.reverse.dropWhile (· = '0')).reverse, digits.length + place⟩

namespace Binary64

/-- The gap to the double below is half the gap to the one above. -/
def narrowBelow (x : Binary64) : Bool :=
  x.significand = Nat.pow 2 52 && -1074 < x.exponent

/-- The multiple of `10 ^ place` nearest to the double among the two that enclose it, if the double is the one
nearest to that multiple. The halfway points to the neighbours belong to doubles with an even significand. In
units of which `grid` make up `10 ^ place` and `quarter` make up a quarter of the last bit, all ends are whole
numbers. -/
def onGrid? (x : Binary64) (place : Int) : Option Nat :=
  let grid := 4 * Nat.pow 10 place.toNat * Nat.pow 2 (-x.exponent).toNat
  let quarter := Nat.pow 2 x.exponent.toNat * Nat.pow 10 (-place).toNat
  let value := 4 * x.significand * quarter
  let low := value - (if x.narrowBelow then 1 else 2) * quarter
  let high := value + 2 * quarter
  let slack := if x.significand % 2 = 0 then 1 else 0
  let names (n : Nat) : Bool := low < n * grid + slack && n * grid < high + slack
  let near := nearest value grid
  let below := value / grid
  if names near then some near
  else if names below then some below
  else if names (below + 1) then some (below + 1)
  else none

/-- The position of the point: the least power of ten above the double. -/
def point (x : Binary64) : Int :=
  let (num, den) := shifted x.significand 1 x.exponent
  if den ≤ num then (Nat.toDigits 10 (num / den)).length
  else 1 - (Nat.toDigits 10 ((den - 1) / num)).length

def expansion (x : Binary64) : Digits :=
  Digits.ofNat (x.significand * Nat.pow 2 x.exponent.toNat * Nat.pow 5 (-x.exponent).toNat) (min x.exponent 0)

/-- Seventeen digits are enough for every double. -/
def shortest (x : Binary64) : Digits :=
  let point := x.point
  let found := (List.range 17).findSome? fun (n : Nat) =>
    let place := point - (n + 1)
    (x.onGrid? place).map fun c => Digits.ofNat c place
  found.getD x.expansion

end Binary64
end Passage
