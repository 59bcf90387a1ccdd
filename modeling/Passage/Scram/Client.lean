import Passage.Scram.Messages
import Passage.Scram.Primitives
import Passage.Text.Quoted

namespace Passage.Scram

open Sha256 (Digest)

structure Client where
  user : String
  password : String
  nonce : String

/-- What is kept to check the server's last message. -/
structure Verifier where
  authMessage : List UInt8
  serverKey : Digest

namespace Client

def debug (c : Client) : String :=
  Quoted.record "ScramClient"
    [("username", Quoted.text c.user), ("password", Quoted.text "***")]

def firstBare (c : Client) : String :=
  "n=" ++ escapeName c.user ++ ",r=" ++ c.nonce

def first (c : Client) : String :=
  header ++ c.firstBare

def withoutProof (nonce : String) : String :=
  "c=" ++ String.ofList (Base64.encode (Text.bytes header)) ++ ",r=" ++ nonce

/-- What both sides sign: the messages so far, as they were sent. -/
def authMessage (c : Client) (serverFirst nonce : String) : List UInt8 :=
  Text.bytes (c.firstBare ++ "," ++ serverFirst ++ "," ++ withoutProof nonce)

/-- The client's key, masked with a signature that only its hash is needed to compute. -/
def proof (p : Primitives) (key : Digest) (message : List UInt8) : List UInt8 :=
  Pbkdf2.mix key.val (p.sign (p.hash key.val).val message).val

/-- Answers the server's first message. The server's nonce must begin with the client's and go on:
otherwise the message belongs to another exchange. -/
def final (p : Primitives) (c : Client) (serverFirst : String) :
    Except Failure (String × Verifier) :=
  match ServerFirst.read serverFirst.toList with
  | .error failure => .error failure
  | .ok server =>
    match Text.stripLead c.nonce.toList server.nonce with
    | none | some [] => .error .foreignNonce
    | some _ =>
      match Base64.decode server.salt with
      | none => .error .unreadableSalt
      | some salt =>
        let nonce := String.ofList server.nonce
        let message := c.authMessage serverFirst nonce
        let keys := p.keys (Text.bytes c.password) salt server.iterations
        .ok (withoutProof nonce ++ ",p=" ++
            String.ofList (Base64.encode (proof p keys.client message)),
          ⟨message, keys.server⟩)

end Client

/-- Whether two byte strings are equal, looking at every byte whatever the first ones are. -/
def sameBytes (a b : List UInt8) : Bool :=
  a.length == b.length &&
    (List.zipWith (· ^^^ ·) a b).foldl (· ||| ·) 0 == 0

theorem foldl_or_eq_zero_iff {bytes : List UInt8} {acc : UInt8} :
    bytes.foldl (· ||| ·) acc = 0 ↔ acc = 0 ∧ ∀ b ∈ bytes, b = 0 := by
  induction bytes generalizing acc with
  | nil => simp
  | cons b bs ih =>
    simp only [List.foldl_cons, ih, UInt8.or_eq_zero_iff, List.forall_mem_cons, and_assoc]

theorem sameBytes_iff {a b : List UInt8} : sameBytes a b = true ↔ a = b := by
  simp only [sameBytes, Bool.and_eq_true, beq_iff_eq, foldl_or_eq_zero_iff, true_and]
  induction a generalizing b with
  | nil => cases b <;> simp
  | cons x xs ih =>
    cases b with
    | nil => simp
    | cons y ys =>
      simp only [List.length_cons, Nat.add_right_cancel_iff, List.zipWith_cons_cons,
        List.forall_mem_cons, UInt8.xor_eq_zero_iff, List.cons.injEq, ← @ih ys, and_left_comm]

def Verifier.check (p : Primitives) (v : Verifier) (serverFinal : String) : Except Failure Unit :=
  match readServerFinal serverFinal.toList with
  | .error failure => .error failure
  | .ok signature =>
    if sameBytes signature (p.sign v.serverKey.val v.authMessage).val then .ok ()
    else .error .wrongSignature

/-- The nonce made of random bytes: their written form, which holds no comma. -/
def nonceOf (random : List UInt8) : String :=
  String.ofList (Base64.encode random)

def nonceBytes : Nat := 24

end Passage.Scram
