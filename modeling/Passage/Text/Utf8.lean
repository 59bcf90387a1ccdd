namespace Passage.Text

def bytes (text : String) : List UInt8 :=
  text.toList.flatMap String.utf8EncodeChar

/-- A character whose first bytes were read: the bits so far, how many bytes are owed, and between
which bounds the next one must lie. -/
structure Unfinished where
  bits : Nat
  owed : Nat
  low : UInt8
  high : UInt8

inductive Lead where
  | whole (c : Char)
  | opens (u : Unfinished)
  | unreadable

/-- The well-formed first bytes. Four of them narrow the second byte, which rules out overlong
forms, surrogates and code points beyond the last plane. -/
def lead (b : UInt8) : Lead :=
  let n := b.toNat
  if n < 0x80 then .whole (Char.ofNat n)
  else if n < 0xC2 then .unreadable
  else if n < 0xE0 then .opens ⟨n - 0xC0, 1, 0x80, 0xBF⟩
  else if n = 0xE0 then .opens ⟨0, 2, 0xA0, 0xBF⟩
  else if n = 0xED then .opens ⟨0xD, 2, 0x80, 0x9F⟩
  else if n < 0xF0 then .opens ⟨n - 0xE0, 2, 0x80, 0xBF⟩
  else if n = 0xF0 then .opens ⟨0, 3, 0x90, 0xBF⟩
  else if n < 0xF4 then .opens ⟨n - 0xF0, 3, 0x80, 0xBF⟩
  else if n = 0xF4 then .opens ⟨4, 3, 0x80, 0x8F⟩
  else .unreadable

def Unfinished.extend (u : Unfinished) (b : UInt8) : Char ⊕ Unfinished :=
  let bits := u.bits * 64 + (b.toNat - 0x80)
  if u.owed ≤ 1 then .inl (Char.ofNat bits) else .inr ⟨bits, u.owed - 1, 0x80, 0xBF⟩

/-- Decodes the bytes after those of an unfinished character, if one was begun. -/
def decodeFrom : Option Unfinished → List UInt8 → List (Option Char)
  | none, [] => []
  | some _, [] => [none]
  | none, b :: rest =>
    match lead b with
    | .whole c => some c :: decodeFrom none rest
    | .opens u => decodeFrom (some u) rest
    | .unreadable => none :: decodeFrom none rest
  | some u, b :: rest =>
    if u.low ≤ b ∧ b ≤ u.high then
      match u.extend b with
      | .inl c => some c :: decodeFrom none rest
      | .inr more => decodeFrom (some more) rest
    else
      none ::
        match lead b with
        | .whole c => some c :: decodeFrom none rest
        | .opens next => decodeFrom (some next) rest
        | .unreadable => none :: decodeFrom none rest

def text? (data : List UInt8) : Option String :=
  ((decodeFrom none data).mapM id).map String.ofList

/-- The text of any bytes, with U+FFFD for each unreadable piece. -/
def lossyText (data : List UInt8) : String :=
  String.ofList ((decodeFrom none data).map fun c => c.getD (Char.ofNat 0xFFFD))

end Passage.Text
