import Passage.Crypto.Sha256

namespace Passage

open Sha256 (Digest)

namespace Hmac

/-- A key of one block: a longer key is hashed first, a shorter one is filled up with zeros. -/
def block (key : List UInt8) : List UInt8 :=
  let short := if 64 < key.length then (Sha256.digest key).val else key
  short ++ List.replicate (64 - short.length) 0

def masked (mask : UInt8) (block : List UInt8) : Sha256.State :=
  Sha256.compress Sha256.initial (Sha256.toWords (block.map (· ^^^ mask)))

/-- A key ready for use: the states of the inner and the outer hash after the masked key. -/
structure Key where
  inner : Sha256.State
  outer : Sha256.State

def Key.ofBytes (key : List UInt8) : Key :=
  let b := block key
  ⟨masked 0x36 b, masked 0x5C b⟩

def Key.sign (key : Key) (message : List UInt8) : Digest :=
  Sha256.finish key.outer 64 (Sha256.finish key.inner 64 message).val

end Hmac

def hmac (key message : List UInt8) : Digest :=
  (Hmac.Key.ofBytes key).sign message

namespace Pbkdf2

def mix (a b : List UInt8) : List UInt8 :=
  List.zipWith (· ^^^ ·) a b

theorem mix_mix {a b : List UInt8} (h : a.length = b.length) : mix (mix a b) b = a := by
  induction a generalizing b with
  | nil => rfl
  | cons x xs ih =>
    obtain ⟨y, ys, rfl⟩ := List.exists_cons_of_length_eq_add_one h.symm
    have rest : xs.length = ys.length := by simpa using h
    change (x ^^^ y ^^^ y) :: mix (mix xs ys) ys = x :: xs
    rw [ih rest, UInt8.xor_assoc, UInt8.xor_self, UInt8.xor_zero]

def mixDigests (a b : Digest) : Digest :=
  ⟨mix a.val b.val, by simp [mix, a.property, b.property]⟩

def iterate (sign : List UInt8 → Digest) : Nat → Digest → Digest → Digest
  | 0, _, mixed => mixed
  | left + 1, last, mixed =>
    let next := sign last.val
    iterate sign left next (mixDigests mixed next)

def derive (sign : List UInt8 → Digest) (salt : List UInt8) (count : Nat) : Digest :=
  let first := sign (salt ++ [0, 0, 0, 1])
  iterate sign (count - 1) first first

end Pbkdf2

/-- The 32 bytes derived from a password and a salt in `count` rounds. -/
def pbkdf2 (password salt : List UInt8) (count : Nat) : Digest :=
  let key := Hmac.Key.ofBytes password
  Pbkdf2.derive key.sign salt count

end Passage
