import Passage.Crypto.Base64
import Passage.Text.Blank
import Passage.Text.Numeral
import Passage.Text.Split
import Passage.Text.Utf8

namespace Passage.Scram

def mechanism : String := "SCRAM-SHA-256"

/-- The header that says: no channel binding, no other identity. -/
def header : String := "n,,"

/-- A message with the user name that the server cannot misread: `=` and `,` are written by number. -/
def escapeName (name : String) : String :=
  String.ofList <| name.toList.flatMap fun c =>
    if c = '=' then "=3D".toList else if c = ',' then "=2C".toList else [c]

theorem not_mem_escapeName (name : String) : ',' ∉ (escapeName name).toList := by
  simp only [escapeName, String.toList_ofList, List.mem_flatMap, not_exists, not_and]
  intro c _
  split
  · decide
  · split
    · decide
    · rename_i plain
      simpa using Ne.symm plain

inductive Attribute where
  | nonce
  | salt
  | iterations
  deriving DecidableEq

def Attribute.letter : Attribute → Char
  | .nonce => 'r'
  | .salt => 's'
  | .iterations => 'i'

inductive Failure where
  | wrongSignature
  | missing (a : Attribute)
  | invalidCount
  | foreignNonce
  | noVerifier
  | refused (reason : String)
  | unreadableSalt
  | unreadableSignature
  deriving DecidableEq

inductive FailureKind where
  | signature
  | message
  | base64
  deriving DecidableEq

def Failure.kind : Failure → FailureKind
  | .wrongSignature => .signature
  | .unreadableSalt | .unreadableSignature => .base64
  | _ => .message

def Failure.text : Failure → String
  | .wrongSignature => "server signature verification failed"
  | .missing a =>
    "invalid server message: server-first-message lacks '" ++ a.letter.toString ++ "'"
  | .invalidCount => "invalid server message: invalid iteration count"
  | .foreignNonce =>
    "invalid server message: server nonce does not extend the client nonce"
  | .noVerifier => "invalid server message: missing 'v=' prefix"
  | .refused reason => "invalid server message: " ++ reason
  | .unreadableSalt => "invalid base64 in salt"
  | .unreadableSignature => "invalid base64 in server signature"

structure ServerFirst where
  nonce : List Char
  salt : List Char
  iterations : Nat

/-- The last non-empty value of an attribute in a comma-separated message. -/
def attribute? (a : Attribute) (message : List Char) : Option (List Char) :=
  (Text.splitAll ',' message).reverse.findSome? fun part =>
    match Text.splitFirst '=' part with
    | some ([letter], value) => if letter = a.letter ∧ ¬ value.isEmpty then some value else none
    | _ => none

theorem attribute?_written {nonce salt digits : List Char} (nonceFree : ',' ∉ nonce)
    (saltFree : ',' ∉ salt) (digitsFree : ',' ∉ digits) (someNonce : nonce ≠ [])
    (someSalt : salt ≠ []) (someDigits : digits ≠ []) (a : Attribute) :
    attribute? a
        ('r' :: '=' :: nonce ++ ',' :: ('s' :: '=' :: salt ++ ',' :: 'i' :: '=' :: digits)) =
      some (match a with | .nonce => nonce | .salt => salt | .iterations => digits) := by
  have parts : Text.splitAll ','
        ('r' :: '=' :: nonce ++ ',' :: ('s' :: '=' :: salt ++ ',' :: 'i' :: '=' :: digits)) =
      ['r' :: '=' :: nonce, 's' :: '=' :: salt, 'i' :: '=' :: digits] := by
    rw [Text.splitAll_append (by simpa using nonceFree),
      Text.splitAll_append (by simpa using saltFree),
      Text.splitAll_of_not_mem (by simpa using digitsFree)]
  rw [attribute?, parts]
  cases a <;> simp [Text.splitFirst, Attribute.letter, someNonce, someSalt, someDigits]

/-- A round count is a thirty-two-bit numeral and is not zero. -/
def count? (text : List Char) : Option Nat :=
  (Text.numeral? 4294967295 text).filter (0 < ·)

theorem count?_toString {n : Nat} (pos : 0 < n) (small : n ≤ 4294967295) :
    count? (toString n).toList = some n := by
  rw [count?, Text.numeral?_toString small, Option.filter_some, if_pos (by simpa using pos)]

/-- Reads the server's first message. Attributes may come in any order, and unknown ones are passed
over. -/
def ServerFirst.read (message : List Char) : Except Failure ServerFirst :=
  match attribute? .iterations message with
  | none => .error (.missing .iterations)
  | some digits =>
    match count? digits with
    | none => .error .invalidCount
    | some iterations =>
      match attribute? .nonce message, attribute? .salt message with
      | none, _ => .error (.missing .nonce)
      | _, none => .error (.missing .salt)
      | some nonce, some salt => .ok ⟨nonce, salt, iterations⟩

def readServerFinal (message : List Char) : Except Failure (List UInt8) :=
  match Text.stripLead "e=".toList message with
  | some reason => .error (.refused (String.ofList reason))
  | none =>
    match Text.stripLead "v=".toList message with
    | none => .error .noVerifier
    | some encoded =>
      match Base64.decode (Text.trimEnd encoded) with
      | some signature => .ok signature
      | none => .error .unreadableSignature

end Passage.Scram
