namespace Passage

/-- The size `significand * 2 ^ exponent` of a finite double: at most 53 bits, and an exponent of -1074 or
above. -/
structure Binary64 where
  significand : Nat
  exponent : Int
  deriving DecidableEq

namespace Binary64

def zero : Binary64 := ⟨0, -1074⟩

/-- The integer nearest to a quotient; of two nearest ones the even one. -/
def nearest (num den : Nat) : Nat :=
  let below := num / den
  let rest := 2 * (num % den)
  if rest < den then below
  else if den < rest then below + 1
  else below + below % 2

def shifted (num den : Nat) (k : Int) : Nat × Nat :=
  (num * Nat.pow 2 k.toNat, den * Nat.pow 2 (-k).toNat)

def leadingBit (num den : Nat) : Int :=
  let guess := (num.log2 : Int) - den.log2
  let (n, d) := shifted num den (-guess)
  if n < d then guess - 1 else guess

/-- The double nearest to a quotient, unless it is larger than every double. Rounding may carry into one more
bit, which moves to the exponent. -/
def ofRatio? (num den : Nat) : Option Binary64 :=
  if num = 0 then some zero
  else
    let exponent := max (leadingBit num den - 52) (-1074)
    let (n, d) := shifted num den (-exponent)
    let significand := nearest n d
    let x : Binary64 :=
      if significand = Nat.pow 2 53 then ⟨Nat.pow 2 52, exponent + 1⟩ else ⟨significand, exponent⟩
    if x.exponent ≤ 971 then some x else none

def ofNat? (n : Nat) : Option Binary64 :=
  ofRatio? n 1

def times? (x y : Binary64) : Option Binary64 :=
  let (num, den) := shifted (x.significand * y.significand) 1 (x.exponent + y.exponent)
  ofRatio? num den

def over? (x y : Binary64) : Option Binary64 :=
  let (num, den) := shifted x.significand y.significand (x.exponent - y.exponent)
  ofRatio? num den

end Binary64
end Passage
