import Passage.Scram.Client

namespace Passage.Scram

open Sha256 (Digest)

/-- What a server keeps for a user, by RFC 5802. -/
structure Account where
  salt : List UInt8
  count : Nat
  storedKey : Digest
  serverKey : Digest

/-- Made once from the password, which is not needed afterwards. -/
def Account.enroll (p : Primitives) (password salt : List UInt8) (count : Nat) : Account :=
  let salted := p.derive password salt count
  let clientKey := p.sign salted.val (Text.bytes "Client Key")
  ⟨salt, count, p.hash clientKey.val, p.sign salted.val (Text.bytes "Server Key")⟩

/-- The value of a field that must have the given letter. -/
def valueOf (letter : Char) (field : List Char) : Option (List Char) :=
  Text.stripLead [letter, '='] field

/-- Undoes `escapeName`. A `=` or a `,` that stands for itself is refused. -/
def unescapeName : List Char → Option (List Char)
  | [] => some []
  | '=' :: '3' :: 'D' :: rest => (unescapeName rest).map ('=' :: ·)
  | '=' :: '2' :: 'C' :: rest => (unescapeName rest).map (',' :: ·)
  | c :: rest => if c = '=' ∨ c = ',' then none else (unescapeName rest).map (c :: ·)

structure Opening where
  header : String
  bare : String
  user : String
  nonce : String

/-- No channel binding, perhaps another identity, then the name and the nonce. Fields behind the
nonce are passed over. -/
def Opening.read (message : String) : Option Opening := do
  let (flag, rest) ← Text.splitFirst ',' message.toList
  let (identity, bare) ← Text.splitFirst ',' rest
  let name :: nonce :: _ := Text.splitAll ',' bare | none
  let user ← unescapeName (← valueOf 'n' name)
  let nonce ← valueOf 'r' nonce
  if (flag = ['n'] ∨ flag = ['y']) ∧ (identity = [] ∨ (valueOf 'a' identity).isSome) ∧
      nonce ≠ [] then
    some ⟨String.ofList (flag ++ ',' :: identity ++ [',']), String.ofList bare, String.ofList user,
      String.ofList nonce⟩
  else none

/-- The server's first message: the client's nonce with the server's behind it, and how the password
was salted. -/
def Account.challenge (a : Account) (nonce suffix : String) : String :=
  "r=" ++ nonce ++ suffix ++ ",s=" ++ String.ofList (Base64.encode a.salt) ++ ",i=" ++
    toString a.count

structure Answer where
  withoutProof : String
  proof : List UInt8

/-- The last field is the proof. The first ones repeat the header and the whole nonce. -/
def Answer.read (o : Opening) (suffix message : String) : Option Answer := do
  let (withoutProof, last) ← Text.splitLast ',' message.toList
  let proof ← Base64.decode (← valueOf 'p' last)
  let binding :: nonce :: _ := Text.splitAll ',' withoutProof | none
  let binding ← Base64.decode (← valueOf 'c' binding)
  let nonce ← valueOf 'r' nonce
  if binding = Text.bytes o.header ∧ String.ofList nonce = o.nonce ++ suffix ∧
      proof.length = 32 then
    some ⟨String.ofList withoutProof, proof⟩
  else none

/-- What both sides sign, put together from what the server received and sent. -/
def Answer.authMessage (answer : Answer) (o : Opening) (challenge : String) : List UInt8 :=
  Text.bytes (o.bare ++ "," ++ challenge ++ "," ++ answer.withoutProof)

/-- The key under the proof's mask. The password is known if its hash is the stored one. -/
def Account.recover (p : Primitives) (a : Account) (message proof : List UInt8) : List UInt8 :=
  Pbkdf2.mix proof (p.sign a.storedKey.val message).val

/-- The server's last message. -/
def Account.signed (p : Primitives) (a : Account) (message : List UInt8) : String :=
  "v=" ++ String.ofList (Base64.encode (p.sign a.serverKey.val message).val)

theorem unescapeName_equals (rest : List Char) :
    unescapeName ("=3D".toList ++ rest) = (unescapeName rest).map ('=' :: ·) := by
  change unescapeName ('=' :: '3' :: 'D' :: rest) = _
  rw [unescapeName]

theorem unescapeName_comma (rest : List Char) :
    unescapeName ("=2C".toList ++ rest) = (unescapeName rest).map (',' :: ·) := by
  change unescapeName ('=' :: '2' :: 'C' :: rest) = _
  rw [unescapeName]

theorem unescapeName_plain {c : Char} (equals : c ≠ '=') (comma : c ≠ ',') (rest : List Char) :
    unescapeName ([c] ++ rest) = (unescapeName rest).map (c :: ·) := by
  rw [List.singleton_append, unescapeName, if_neg (by simp [equals, comma])]
  · exact fun _ he => absurd he equals
  · exact fun _ he => absurd he equals

theorem unescapeName_escapeName (name : String) :
    unescapeName (escapeName name).toList = some name.toList := by
  rw [escapeName, String.toList_ofList]
  induction name.toList with
  | nil => rfl
  | cons c cs ih =>
    rw [List.flatMap_cons]
    split
    · rename_i equals
      rw [unescapeName_equals, ih, equals]
      rfl
    · split
      · rename_i comma
        rw [unescapeName_comma, ih, comma]
        rfl
      · rename_i equals comma
        rw [unescapeName_plain equals comma, ih]
        rfl

theorem valueOf_append (letter : Char) (value : List Char) :
    valueOf letter (letter :: '=' :: value) = some value :=
  Text.stripLead_append [letter, '='] value

end Passage.Scram
