import Mathlib
import Passage.Proofs.Text.Decoding
import Passage.Proofs.Wire.Segmentation
import Passage.Wire.Packet

namespace Passage.Wire

theorem or_bytes (n : Nat) :
    ((n / 2 ^ 24 % 2 ^ 8) <<< 24 % 2 ^ 32) ||| ((n / 2 ^ 16 % 2 ^ 8) <<< 16 % 2 ^ 32) |||
      ((n / 2 ^ 8 % 2 ^ 8) <<< 8 % 2 ^ 32) ||| n % 2 ^ 8 = n % 2 ^ 32 := by
  apply Nat.eq_of_testBit_eq
  intro i
  simp only [Nat.testBit_or, Nat.testBit_mod_two_pow, Nat.testBit_shiftLeft,
    Nat.testBit_div_two_pow]
  -- each bit comes from one of the bytes
  by_cases last : i < 8
  · simp [last, show ¬ 8 ≤ i by omega, show ¬ 16 ≤ i by omega, show ¬ 24 ≤ i by omega,
      show i < 32 by omega]
  by_cases third : i < 16
  · simp [last, show 8 ≤ i by omega, show ¬ 16 ≤ i by omega, show ¬ 24 ≤ i by omega,
      show i < 32 by omega, show i - 8 < 8 by omega]
  by_cases second : i < 24
  · simp [last, show 16 ≤ i by omega, show ¬ 24 ≤ i by omega, show i < 32 by omega,
      show i - 16 < 8 by omega, show ¬ i - 8 < 8 by omega]
  by_cases first : i < 32
  · simp [last, first, show 24 ≤ i by omega, show i - 24 < 8 by omega,
      show ¬ i - 16 < 8 by omega, show ¬ i - 8 < 8 by omega]
  · simp [last, first]

theorem signedWord_ofNat (n : Nat) :
    signedWord (UInt8.ofNat (n / 16777216)) (UInt8.ofNat (n / 65536)) (UInt8.ofNat (n / 256))
      (UInt8.ofNat n) = Int32.ofNat n := by
  rw [← UInt32.toInt32_ofNat', signedWord]
  refine congrArg UInt32.toInt32 (UInt32.toNat_inj.mp ?_)
  simp only [UInt32.toNat_or, UInt32.toNat_shiftLeft, UInt8.toNat_toUInt32, UInt8.toNat_ofNat',
    UInt32.toNat_ofNat']
  exact or_bytes n

theorem takeWord_word (what : String) (n : Nat) (rest : List UInt8) :
    takeWord what (word n ++ rest) = .ok (Int32.ofNat n, rest) := by
  simp only [word, List.cons_append, List.nil_append, takeWord, signedWord_ofNat]

/-- A signed number as a word. -/
def signed (n : Int32) : List UInt8 := word n.toUInt32.toNat

theorem takeWord_signed (what : String) (n : Int32) (rest : List UInt8) :
    takeWord what (signed n ++ rest) = .ok (n, rest) := by
  rw [signed, takeWord_word, ← UInt32.toInt32_ofNat', UInt32.ofNat_toNat, Int32.toInt32_toUInt32]

/-- The text can be ended by a NUL. -/
def NulFree (text : String) : Prop := '\x00' ∉ text.toList

instance (text : String) : Decidable (NulFree text) :=
  inferInstanceAs (Decidable (_ ∉ _))

theorem splitNul_append {text : List UInt8} (free : 0 ∉ text) (rest : List UInt8) :
    splitNul (text ++ 0 :: rest) = some (text, rest) := by
  induction text with
  | nil => rfl
  | cons b text ih =>
    rw [List.mem_cons, not_or] at free
    obtain ⟨nonzero, free⟩ := free
    rw [List.cons_append, splitNul, if_neg (Ne.symm nonzero), ih free]
    rfl

theorem splitNul_terminated {text : String} (free : NulFree text) (rest : List UInt8) :
    splitNul (terminated text ++ rest) = some (Text.bytes text, rest) := by
  rw [terminated, List.append_assoc]
  exact splitNul_append (fun zero => free (Text.zero_mem_bytes_iff.mp zero)) rest

theorem takeText_terminated (what : String) {text : String} (free : NulFree text)
    (rest : List UInt8) : takeText what (terminated text ++ rest) = .ok (text, rest) := by
  rw [takeText, splitNul_terminated free]
  dsimp only
  rw [Text.lossyText_bytes]

structure Label where
  text : String
  free : NulFree text

structure Field where
  type : UInt8
  value : Label
  nonzero : type ≠ 0

/-- The types of the fields that a login looks at: severity, code, message and detail. -/
def Notice.types : List UInt8 := [83, 67, 77, 68]

/-- The fields of an error or a notice in the order in which they are sent. -/
structure Fields where
  all : List Field
  /-- Other types may be repeated. -/
  once : ∀ type ∈ Notice.types, (all.map Field.type).count type ≤ 1

/-- A mechanism as a server offers it. The empty name ends the offer. -/
structure Offered where
  name : Label
  nonempty : name.text ≠ ""

/-- What a server can say before the first query. -/
inductive Message where
  | accepted
  | cleartext
  | md5 (salt : List UInt8)
  | sasl (mechanisms : List Offered)
  | saslContinue (data : List UInt8)
  | saslFinal (data : List UInt8)
  | keyData (processId secretKey : Int32)
  | parameter (name value : Label)
  | error (fields : Fields)
  | notice (fields : Fields)
  | ready (status : UInt8)

def Field.encode (f : Field) : List UInt8 := f.type :: terminated f.value.text

namespace Fields

def encode (fields : Fields) : List UInt8 := fields.all.flatMap Field.encode ++ [0]

def value? (fields : Fields) (type : UInt8) : Option String :=
  (fields.all.find? fun f => f.type = type).map fun f => f.value.text

/-- What the fields say. -/
def meaning (fields : Fields) : Notice where
  severity := fields.value? 83
  code := fields.value? 67
  message := fields.value? 77
  detail := fields.value? 68

end Fields

namespace Message

def tag : Message → UInt8
  | accepted | cleartext | md5 _ | sasl _ | saslContinue _ | saslFinal _ => 82
  | keyData .. => 75
  | parameter .. => 83
  | error _ => 69
  | notice _ => 78
  | ready _ => 90

def body : Message → List UInt8
  | accepted => word 0
  | cleartext => word 3
  | md5 salt => word 5 ++ salt
  | sasl mechanisms => word 10 ++ mechanisms.flatMap (fun m => terminated m.name.text) ++ [0]
  | saslContinue data => word 11 ++ data
  | saslFinal data => word 12 ++ data
  | keyData processId secretKey => signed processId ++ signed secretKey
  | parameter name value => terminated name.text ++ terminated value.text
  | error fields | notice fields => fields.encode
  | ready status => [status]

def encode (m : Message) : List UInt8 := m.tag :: word (m.body.length + 4) ++ m.body

/-- What a client has to make of the message. -/
def meaning : Message → Reply
  | accepted => .auth .ok
  | cleartext => .auth .cleartext
  | md5 _ => .auth .md5
  | sasl mechanisms => .auth (.sasl (mechanisms.map fun m => m.name.text))
  | saslContinue data => .auth (.saslContinue data)
  | saslFinal data => .auth (.saslFinal data)
  | keyData processId secretKey => .keyData processId secretKey
  | parameter name value => .parameter name.text value.text
  | error fields => .error fields.meaning
  | notice fields => .notice fields.meaning
  | ready status => .ready status

end Message

theorem readMechanisms_offered (mechanisms : List Offered) :
    readMechanisms (mechanisms.flatMap (fun m => terminated m.name.text) ++ [0]) =
      .ok (mechanisms.map fun m => m.name.text) := by
  induction mechanisms with
  | nil =>
    have listEnd : splitNul [0] = some ([], []) := rfl
    exact readMechanisms_end listEnd
  | cons m mechanisms ih =>
    rw [List.flatMap_cons, List.append_assoc,
      readMechanisms_name (splitNul_terminated m.name.free _) (Text.bytes_ne_nil m.nonempty), ih,
      Text.lossyText_bytes]
    rfl

namespace Notice

def field? (n : Notice) (type : UInt8) : Option String :=
  if type = 83 then n.severity
  else if type = 67 then n.code
  else if type = 77 then n.message
  else if type = 68 then n.detail
  else none

theorem ext_field? {m n : Notice} (same : ∀ type ∈ types, m.field? type = n.field? type) :
    m = n := by
  obtain ⟨severity, code, message, detail⟩ := m
  obtain ⟨severity', code', message', detail'⟩ := n
  obtain rfl : severity = severity' := same 83 (by decide)
  obtain rfl : code = code' := same 67 (by decide)
  obtain rfl : message = message' := same 77 (by decide)
  obtain rfl : detail = detail' := same 68 (by decide)
  rfl

/-- A field that is set is the only one that changes. -/
theorem field?_set (n : Notice) {type : UInt8} (looked : type ∈ types) (field : UInt8)
    (value : String) :
    (n.set field value).field? type = if field = type then some value else n.field? type := by
  simp only [types, List.mem_cons, List.not_mem_nil, or_false] at looked
  unfold set
  rcases looked with rfl | rfl | rfl | rfl <;> split_ifs <;> simp_all [field?]

end Notice

def Notice.heard (n : Notice) (fields : List Field) : Notice :=
  fields.foldl (fun n f => n.set f.type f.value.text) n

theorem readNotice_fields (n : Notice) (fields : List Field) :
    readNotice n (fields.flatMap Field.encode ++ [0]) = .ok (n.heard fields) := by
  induction fields generalizing n with
  | nil => exact readNotice_end n []
  | cons f fields ih =>
    rw [List.flatMap_cons, List.append_assoc, Field.encode, List.cons_append,
      readNotice_field f.nonzero (splitNul_terminated f.value.free _), ih, Text.lossyText_bytes]
    rfl

/-- A type that comes once keeps the value that it comes with. -/
theorem field?_heard {type : UInt8} (looked : type ∈ Notice.types) (n : Notice)
    (fields : List Field) (once : (fields.map Field.type).count type ≤ 1) :
    (n.heard fields).field? type =
      ((fields.find? fun f => f.type = type).map fun f => f.value.text).or (n.field? type) := by
  induction fields generalizing n with
  | nil => rfl
  | cons f fields ih =>
    rw [List.map_cons, List.count_cons] at once
    have later := ih (n.set f.type f.value.text) (by omega)
    rw [Notice.field?_set n looked] at later
    change ((n.set f.type f.value.text).heard fields).field? type = _
    rw [later]
    by_cases named : f.type = type
    · -- no other field has this type
      have none_left : (fields.map Field.type).count type = 0 := by
        simp only [named, beq_self_eq_true, if_true] at once
        omega
      have not_found : fields.find? (fun f => f.type = type) = none := by
        rw [List.find?_eq_none]
        intro g hg same
        refine List.count_eq_zero.mp none_left ?_
        exact List.mem_map.mpr ⟨g, hg, by simpa using same⟩
      simp [named, not_found]
    · simp [named]

theorem readNotice_encode (fields : Fields) :
    readNotice {} fields.encode = .ok fields.meaning := by
  rw [Fields.encode, readNotice_fields]
  congr 1
  apply Notice.ext_field?
  intro type looked
  rw [field?_heard looked _ _ (fields.once type looked)]
  simp only [Notice.types, List.mem_cons, List.not_mem_nil, or_false] at looked
  rcases looked with rfl | rfl | rfl | rfl <;> exact Option.or_none

/-- An authentication request begins with its code. -/
theorem readAuth_word (code : Nat) (rest : List UInt8) :
    readAuth (word code ++ rest) =
      match (Int32.ofNat code).toInt with
      | 0 => .ok .ok
      | 3 => .ok .cleartext
      | 5 => .ok .md5
      | 10 => (readMechanisms rest).map .sasl
      | 11 => .ok (.saslContinue rest)
      | 12 => .ok (.saslFinal rest)
      | other => .error (.unsupportedAuth other) := by
  unfold readAuth
  rw [takeWord_word]
  rfl

theorem read_auth {body : List UInt8} {request : AuthRequest} (h : readAuth body = .ok request) :
    Reply.read 82 body = .ok (.auth request) := by
  unfold Reply.read
  rw [if_pos rfl, h]
  rfl

theorem read_keyData (processId secretKey : Int32) :
    Reply.read 75 (signed processId ++ signed secretKey) = .ok (.keyData processId secretKey) := by
  have first := takeWord_signed "backend key data" processId (signed secretKey)
  have second := takeWord_signed "backend key data" secretKey []
  rw [List.append_nil] at second
  unfold Reply.read
  rw [if_neg (by decide), if_pos rfl, first]
  simp only [bind, Except.bind, second]
  rfl

theorem read_parameter (name value : Label) :
    Reply.read 83 (terminated name.text ++ terminated value.text) =
      .ok (.parameter name.text value.text) := by
  have first := takeText_terminated "parameter name" name.free (terminated value.text)
  have second := takeText_terminated "parameter value" value.free []
  rw [List.append_nil] at second
  unfold Reply.read
  rw [if_neg (by decide), if_neg (by decide), if_pos rfl, first]
  simp only [bind, Except.bind, second]
  rfl

theorem read_meaning (m : Message) : Reply.read m.tag m.body = .ok m.meaning := by
  cases m with
  | accepted => exact read_auth (readAuth_word 0 [])
  | cleartext => exact read_auth (readAuth_word 3 [])
  | md5 salt => exact read_auth (readAuth_word 5 salt)
  | sasl mechanisms =>
    refine read_auth ?_
    rw [Message.body, List.append_assoc, readAuth_word]
    change (readMechanisms _).map AuthRequest.sasl = _
    rw [readMechanisms_offered]
    rfl
  | saslContinue data => exact read_auth (readAuth_word 11 data)
  | saslFinal data => exact read_auth (readAuth_word 12 data)
  | keyData processId secretKey => exact read_keyData processId secretKey
  | parameter name value => exact read_parameter name value
  | error fields =>
    change (readNotice {} fields.encode).map Reply.error = _
    rw [readNotice_encode]
    rfl
  | notice fields =>
    change (readNotice {} fields.encode).map Reply.notice = _
    rw [readNotice_encode]
    rfl
  | ready status => rfl

/-- The message as a frame, which can be taken whole if it is not too long. -/
def Message.frame (m : Message) (small : m.body.length + 4 ≤ maxLength) : Frame where
  tag := m.tag
  a := UInt8.ofNat ((m.body.length + 4) / 16777216)
  b := UInt8.ofNat ((m.body.length + 4) / 65536)
  c := UInt8.ofNat ((m.body.length + 4) / 256)
  d := UInt8.ofNat (m.body.length + 4)
  body := m.body
  counted := by
    have bound : m.body.length + 4 < 2 ^ 31 := by
      unfold maxLength at small
      omega
    rw [signedWord_ofNat, Int32.toInt_ofNat_of_lt bound]
    rfl
  small := small

theorem Message.bytes_frame (m : Message) (small : m.body.length + 4 ≤ maxLength) :
    (m.frame small).bytes = m.encode := rfl

/-- Every message of a server that is not too long is read back as what it says, and what comes behind it
is left as it is. -/
theorem intake_encode (m : Message) (small : m.body.length + 4 ≤ maxLength) (tail : List UInt8) :
    intake (m.encode ++ tail) = .taken (.ok m.meaning) tail := by
  have taken := intake_frame (m.frame small) tail
  rw [m.bytes_frame small] at taken
  rw [taken]
  exact congrArg (Intake.taken · tail) (read_meaning m)

/-- A refusal with its fields out of order and one that a login does not look at sent twice, and the first
bytes of another message behind it. -/
theorem intake_encode_refusal :
    let field (type : UInt8) (text : String) (free : NulFree text) (nonzero : type ≠ 0) : Field :=
      ⟨type, ⟨text, free⟩, nonzero⟩
    let refusal : Message := .error
      { all := [field 82 "auth_failed" (by decide) (by decide),
          field 77 "no entry for “app”" (by decide) (by decide),
          field 82 "" (by decide) (by decide), field 67 "28P01" (by decide) (by decide),
          field 83 "FATAL" (by decide) (by decide)]
        once := by decide +kernel }
    refusal.body.length + 4 ≤ maxLength ∧
      intake (refusal.encode ++ [90, 0]) =
        .taken (.ok (.error ⟨some "FATAL", some "28P01", some "no entry for “app”", none⟩))
          [90, 0] := by
  intro field refusal
  have small : refusal.body.length + 4 ≤ maxLength := by decide
  have meaning : refusal.meaning =
      .error ⟨some "FATAL", some "28P01", some "no entry for “app”", none⟩ := by decide
  rw [← meaning]
  exact ⟨small, intake_encode refusal small [90, 0]⟩

end Passage.Wire
