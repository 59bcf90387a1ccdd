import Passage.Net.IoFault
import Passage.Text.Quoted
import Passage.Text.Utf8

namespace Passage.Wire

inductive AuthRequest where
  | ok
  | cleartext
  | md5
  | sasl (mechanisms : List String)
  | saslContinue (data : List UInt8)
  | saslFinal (data : List UInt8)
  deriving DecidableEq

structure Notice where
  severity : Option String := none
  code : Option String := none
  message : Option String := none
  detail : Option String := none
  deriving DecidableEq

inductive Reply where
  | auth (request : AuthRequest)
  | keyData (processId secretKey : Int32)
  | parameter (name value : String)
  | notice (n : Notice)
  | error (n : Notice)
  | ready (status : UInt8)
  deriving DecidableEq

inductive ReplyFault where
  | badLength (length : Int) (tag : UInt8)
  | truncated (what : String)
  | unterminated (what : String)
  | unsupportedAuth (code : Int)
  | unexpected (tag : UInt8)
  deriving DecidableEq

namespace Notice

/-- Codes of class 28 mean that the login itself was turned down. -/
def isAuthFailure (n : Notice) : Bool :=
  match n.code with
  | some code => "28".toList.isPrefixOf code.toList
  | none => false

def text (n : Notice) : String :=
  n.message.getD "server error" ++ ((n.code.map fun c => " (" ++ c ++ ")").getD "") ++
    ((n.detail.map fun d => ": " ++ d).getD "")

def debug (n : Notice) : String :=
  Quoted.record "ServerNotice"
    [("severity", Quoted.option Quoted.text n.severity),
      ("code", Quoted.option Quoted.text n.code),
      ("message", Quoted.option Quoted.text n.message),
      ("detail", Quoted.option Quoted.text n.detail)]

end Notice

def AuthRequest.debug : AuthRequest → String
  | .ok => "Ok"
  | .cleartext => "Cleartext"
  | .md5 => "Md5"
  | .sasl mechanisms => Quoted.wrapped "Sasl" (Quoted.list Quoted.text mechanisms)
  | .saslContinue data => Quoted.wrapped "SaslContinue" (Quoted.bytes data)
  | .saslFinal data => Quoted.wrapped "SaslFinal" (Quoted.bytes data)

def Reply.debug : Reply → String
  | .auth request => Quoted.wrapped "Auth" request.debug
  | .keyData processId secretKey =>
    Quoted.record "KeyData"
      [("process_id", toString processId.toInt), ("secret_key", toString secretKey.toInt)]
  | .parameter name value =>
    Quoted.record "Parameter" [("name", Quoted.text name), ("value", Quoted.text value)]
  | .notice n => Quoted.wrapped "Notice" n.debug
  | .error n => Quoted.wrapped "Error" n.debug
  | .ready status => Quoted.wrapped "Ready" (toString status.toNat)

namespace ReplyFault

def tagText (tag : UInt8) : String :=
  Quoted.char (Char.ofNat tag.toNat)

def kind : ReplyFault → IoKind
  | .unsupportedAuth _ => .unsupported
  | _ => .invalidData

def text : ReplyFault → String
  | .badLength length tag => "bad length " ++ toString length ++ " for message " ++ tagText tag
  | .truncated what => "truncated " ++ what
  | .unterminated what => "unterminated " ++ what
  | .unsupportedAuth code => "unsupported auth request " ++ toString code
  | .unexpected tag => "unexpected message " ++ tagText tag ++ " during startup"

end ReplyFault

def signedWord (a b c d : UInt8) : Int32 :=
  ((a.toUInt32 <<< 24) ||| (b.toUInt32 <<< 16) ||| (c.toUInt32 <<< 8) ||| d.toUInt32).toInt32

def takeWord (what : String) : List UInt8 → Except ReplyFault (Int32 × List UInt8)
  | a :: b :: c :: d :: rest => .ok (signedWord a b c d, rest)
  | _ => .error (.truncated what)

def splitNul : List UInt8 → Option (List UInt8 × List UInt8)
  | [] => none
  | b :: rest => if b = 0 then some ([], rest) else (splitNul rest).map fun (x, y) => (b :: x, y)

def takeText (what : String) (body : List UInt8) : Except ReplyFault (String × List UInt8) :=
  match splitNul body with
  | some (text, rest) => .ok (Text.lossyText text, rest)
  | none => .error (.unterminated what)

theorem length_splitNul_lt {body text rest : List UInt8} (h : splitNul body = some (text, rest)) :
    rest.length < body.length := by
  induction body generalizing text with
  | nil => simp [splitNul] at h
  | cons b bs ih =>
    by_cases hb : b = 0
    · simp [splitNul, hb] at h
      simp [h.2]
    · simp only [splitNul, hb, if_false, Option.map_eq_some_iff, Prod.mk.injEq] at h
      obtain ⟨⟨x, y⟩, hs, rfl, rfl⟩ := h
      exact Nat.lt_succ_of_lt (ih hs)

theorem eq_append_of_splitNul {body text rest : List UInt8}
    (h : splitNul body = some (text, rest)) : body = text ++ 0 :: rest ∧ 0 ∉ text := by
  induction body generalizing text with
  | nil => simp [splitNul] at h
  | cons b bs ih =>
    by_cases hb : b = 0
    · simp [splitNul, hb] at h
      obtain ⟨rfl, rfl⟩ := h
      simp [hb]
    · simp only [splitNul, hb, if_false, Option.map_eq_some_iff, Prod.mk.injEq] at h
      obtain ⟨⟨x, y⟩, hs, rfl, rfl⟩ := h
      obtain ⟨rfl, free⟩ := ih hs
      exact ⟨rfl, by simp [free, Ne.symm hb]⟩

/-- The mechanisms on offer, up to the empty name or the end of the body. -/
def readMechanisms (body : List UInt8) : Except ReplyFault (List String) :=
  if body.isEmpty then .ok []
  else
    match _h : splitNul body with
    | none => .error (.unterminated "SASL mechanism")
    | some ([], _) => .ok []
    | some (b :: bs, rest) =>
      match readMechanisms rest with
      | .ok names => .ok (Text.lossyText (b :: bs) :: names)
      | .error fault => .error fault
termination_by body.length
decreasing_by exact length_splitNul_lt _h

theorem readMechanisms_unterminated {body : List UInt8} (nonempty : body ≠ [])
    (h : splitNul body = none) :
    readMechanisms body = .error (.unterminated "SASL mechanism") := by
  rw [readMechanisms, if_neg (by simpa using nonempty)]
  split <;> simp_all

theorem readMechanisms_end {body rest : List UInt8} (h : splitNul body = some ([], rest)) :
    readMechanisms body = .ok [] := by
  rw [readMechanisms]
  split
  · rfl
  · split <;> simp_all

theorem readMechanisms_name {body name rest : List UInt8} (h : splitNul body = some (name, rest))
    (nonempty : name ≠ []) :
    readMechanisms body = (readMechanisms rest).map (Text.lossyText name :: ·) := by
  have some_byte : body ≠ [] := by
    rintro rfl
    simp [splitNul] at h
  rw [readMechanisms, if_neg (by simpa using some_byte)]
  split
  · simp_all
  · simp_all
  · rename_i b bs after found
    obtain ⟨rfl, rfl⟩ : b :: bs = name ∧ after = rest := by simpa [found] using h
    cases readMechanisms after <;> rfl

/-- A notice with one more field; a field that is written twice keeps its last value. -/
def Notice.set (n : Notice) (field : UInt8) (value : String) : Notice :=
  if field = 83 then { n with severity := some value }
  else if field = 67 then { n with code := some value }
  else if field = 77 then { n with message := some value }
  else if field = 68 then { n with detail := some value }
  else n

/-- Reads the fields of a notice: a type byte and a text each, up to a NUL type or the end. -/
def readNotice (n : Notice) (body : List UInt8) : Except ReplyFault Notice :=
  match body with
  | [] => .ok n
  | field :: body =>
    if field = 0 then .ok n
    else
      match _h : splitNul body with
      | none => .error (.unterminated "notice field")
      | some (value, rest) => readNotice (n.set field (Text.lossyText value)) rest
termination_by body.length
decreasing_by
  have := length_splitNul_lt _h
  simp
  omega

theorem readNotice_nil (n : Notice) : readNotice n [] = .ok n := by
  rw [readNotice]

theorem readNotice_end (n : Notice) (rest : List UInt8) : readNotice n (0 :: rest) = .ok n := by
  rw [readNotice, if_pos rfl]

theorem readNotice_unterminated {n : Notice} {field : UInt8} (nonzero : field ≠ 0)
    {body : List UInt8} (h : splitNul body = none) :
    readNotice n (field :: body) = .error (.unterminated "notice field") := by
  rw [readNotice, if_neg nonzero]
  split <;> simp_all

theorem readNotice_field {n : Notice} {field : UInt8} (nonzero : field ≠ 0)
    {body value rest : List UInt8} (h : splitNul body = some (value, rest)) :
    readNotice n (field :: body) = readNotice (n.set field (Text.lossyText value)) rest := by
  rw [readNotice, if_neg nonzero]
  split <;> simp_all

def readAuth (body : List UInt8) : Except ReplyFault AuthRequest := do
  let (code, rest) ← takeWord "auth request" body
  match code.toInt with
  | 0 => return .ok
  | 3 => return .cleartext
  | 5 => return .md5
  | 10 => return .sasl (← readMechanisms rest)
  | 11 => return .saslContinue rest
  | 12 => return .saslFinal rest
  | other => .error (.unsupportedAuth other)

/-- Reads the body of the message with the given tag. Bytes after what the message needs are ignored. -/
def Reply.read (tag : UInt8) (body : List UInt8) : Except ReplyFault Reply :=
  if tag = 82 then (readAuth body).map .auth
  else if tag = 75 then do
    let (processId, rest) ← takeWord "backend key data" body
    let (secretKey, _) ← takeWord "backend key data" rest
    return .keyData processId secretKey
  else if tag = 83 then do
    let (name, rest) ← takeText "parameter name" body
    let (value, _) ← takeText "parameter value" rest
    return .parameter name value
  else if tag = 69 then (readNotice {} body).map .error
  else if tag = 78 then (readNotice {} body).map .notice
  else if tag = 90 then
    match body with
    | status :: _ => .ok (.ready status)
    | [] => .error (.truncated "ReadyForQuery")
  else .error (.unexpected tag)

end Passage.Wire
