import Passage.Hop.Socks
import Passage.Proofs.Flow.Hearing

namespace Passage.Socks

open Passage.Flow

/-- What a proxy makes of a handshake. -/
inductive Verdict where
  | granted
  | denied (code : UInt8)
  | rejected
  | malformed
  /-- The stream fails before the handshake is over; or nothing comes any more. -/
  | brokenOff (fault : Option IoFault)

/-- The answers that a proxy owes, in this order; the second one only if it asks for a password. -/
inductive Answer where
  | method
  | login
  | reply

/-- The client is let in when it has sent `sent` and has read `bytes` as far as `rest`. -/
inductive Admits : Login → (bytes sent rest : List UInt8) → Prop where
  | freely (login : Login) (rest : List UInt8) : Admits login (5 :: 0 :: rest) (greeting login) rest
  | byPassword (user password rest : List UInt8) :
      Admits (some (user, password)) (5 :: 2 :: 1 :: 0 :: rest)
        (greeting (some (user, password)) ++ passwordRequest user password) rest

/-- When the client has sent `sent`, it has read `bytes` as far as `rest` and waits for this answer. -/
inductive Awaits (asked : List UInt8) : Login → (bytes : List UInt8) → Answer → (sent rest : List UInt8) → Prop where
  | method (login : Login) (bytes : List UInt8) : Awaits asked login bytes .method (greeting login) bytes
  | login (user password rest : List UInt8) :
      Awaits asked (some (user, password)) (5 :: 2 :: rest) .login
        (greeting (some (user, password)) ++ passwordRequest user password) rest
  | reply {login : Login} {bytes sent rest : List UInt8} (admits : Admits login bytes sent rest) :
      Awaits asked login bytes .reply (sent ++ asked) rest

/-- An address of this type as a reply has it, with the port behind it. -/
inductive Bound : UInt8 → List UInt8 → Prop where
  | ip4 {data : List UInt8} (whole : data.length = 6) : Bound 1 data
  | ip6 {data : List UInt8} (whole : data.length = 18) : Bound 4 data
  | name {name port : List UInt8} (short : name.length < 256) (whole : port.length = 2)
      (readable : (Text.text? name).isSome = true) : Bound 3 (counted name ++ port)

/-- What an answer says, unless it leads on to the next one. -/
inductive Says (login : Login) : Answer → List UInt8 → Verdict → Prop where
  | methodVersion {version : UInt8} (other : version ≠ 5) (method : UInt8) (more : List UInt8) :
      Says login .method (version :: method :: more) .malformed
  | noMethod (more : List UInt8) : Says login .method (5 :: 0xFF :: more) .rejected
  /-- A method that the client has not offered. -/
  | unoffered {method : UInt8} (some_method : method ≠ 0xFF) (locked : method ≠ 0)
      (password : method = 2 → login = none) (more : List UInt8) :
      Says login .method (5 :: method :: more) .malformed
  | loginVersion {version : UInt8} (other : version ≠ 1) (status : UInt8) (more : List UInt8) :
      Says login .login (version :: status :: more) .malformed
  | loginFailed {status : UInt8} (failed : status ≠ 0) (more : List UInt8) :
      Says login .login (1 :: status :: more) .rejected
  | replyVersion {version : UInt8} (other : version ≠ 5) (code reserved type : UInt8) (more : List UInt8) :
      Says login .reply (version :: code :: reserved :: type :: more) .malformed
  | reserved {reserved : UInt8} (used : reserved ≠ 0) (code type : UInt8) (more : List UInt8) :
      Says login .reply (5 :: code :: reserved :: type :: more) .malformed
  | denied {code : UInt8} (unserved : code ≠ 0) (type : UInt8) (more : List UInt8) :
      Says login .reply (5 :: code :: 0 :: type :: more) (.denied code)
  | addressType {type : UInt8} (unknown : type ≠ 1 ∧ type ≠ 3 ∧ type ≠ 4) (more : List UInt8) :
      Says login .reply (5 :: 0 :: 0 :: type :: more) .malformed
  | unreadable {name port : List UInt8} (short : name.length < 256) (whole : port.length = 2)
      (unreadable : Text.text? name = none) (more : List UInt8) :
      Says login .reply (5 :: 0 :: 0 :: 3 :: (counted name ++ port ++ more)) .malformed
  | granted {type : UInt8} {address : List UInt8} (bound : Bound type address) (more : List UInt8) :
      Says login .reply (5 :: 0 :: 0 :: type :: (address ++ more)) .granted

/-- The bytes end before the answer does. -/
inductive Unfinished : Answer → List UInt8 → Prop where
  | method {bytes : List UInt8} (short : bytes.length < 2) : Unfinished .method bytes
  | login {bytes : List UInt8} (short : bytes.length < 2) : Unfinished .login bytes
  | reply {bytes : List UInt8} (short : bytes.length < 4) : Unfinished .reply bytes
  | ip4 {bytes : List UInt8} (short : bytes.length < 6) : Unfinished .reply (5 :: 0 :: 0 :: 1 :: bytes)
  | ip6 {bytes : List UInt8} (short : bytes.length < 18) : Unfinished .reply (5 :: 0 :: 0 :: 4 :: bytes)
  | name : Unfinished .reply [5, 0, 0, 3]
  | rest {length : UInt8} {bytes : List UInt8} (short : bytes.length < length.toNat + 2) :
      Unfinished .reply (5 :: 0 :: 0 :: 3 :: length :: bytes)

/-- What a proxy makes of the handshake that is held on a stream, for a client that logs in like this and asks for
the connection like that. -/
inductive Judged (login : Login) (asked : List UInt8) (s : Tape) : Verdict → Prop where
  | said {answer : Answer} {sent rest : List UInt8} {verdict : Verdict}
      (awaits : Awaits asked login s.bytes answer sent rest) (taken : s.takes sent = true)
      (said : Says login answer rest verdict) : Judged login asked s verdict
  | cut {answer : Answer} {sent rest : List UInt8}
      (awaits : Awaits asked login s.bytes answer sent rest) (taken : s.takes sent = true)
      (unfinished : Unfinished answer rest) : Judged login asked s (.brokenOff s.behind)
  | full {answer : Answer} {sent rest : List UInt8}
      (awaits : Awaits asked login s.bytes answer sent rest) (full : s.takes sent = false) :
      Judged login asked s (.brokenOff (some s.onFull))

theorem exists_name {length : UInt8} {bytes : List UInt8} (enough : length.toNat + 2 ≤ bytes.length) :
    ∃ name port more, name.length = length.toNat ∧ port.length = 2 ∧
      length :: bytes = counted name ++ port ++ more := by
  have named : (bytes.take length.toNat).length = length.toNat := by
    rw [List.length_take]
    omega
  refine ⟨bytes.take length.toNat, (bytes.drop length.toNat).take 2, (bytes.drop length.toNat).drop 2, named, ?_, ?_⟩
  · rw [List.length_take, List.length_drop]
    omega
  · rw [counted, named, UInt8.ofNat_toNat, List.append_assoc, List.take_append_drop, List.cons_append,
      List.take_append_drop]

/-- A reply to a request that is served is judged by the address in it. -/
theorem unfinished_or_served (login : Login) (type : UInt8) (bytes : List UInt8) :
    Unfinished .reply (5 :: 0 :: 0 :: type :: bytes) ∨
      ∃ verdict, Says login .reply (5 :: 0 :: 0 :: type :: bytes) verdict := by
  by_cases one : type = 1
  · subst one
    by_cases short : bytes.length < 6
    · exact .inl (.ip4 short)
    · have whole : (bytes.take 6).length = 6 := List.length_take_of_le (Nat.le_of_not_lt short)
      have said : Says login .reply _ .granted := .granted (.ip4 whole) (bytes.drop 6)
      rw [List.take_append_drop] at said
      exact .inr ⟨.granted, said⟩
  by_cases four : type = 4
  · subst four
    by_cases short : bytes.length < 18
    · exact .inl (.ip6 short)
    · have whole : (bytes.take 18).length = 18 := List.length_take_of_le (Nat.le_of_not_lt short)
      have said : Says login .reply _ .granted := .granted (.ip6 whole) (bytes.drop 18)
      rw [List.take_append_drop] at said
      exact .inr ⟨.granted, said⟩
  by_cases three : type = 3
  · subst three
    rcases bytes with _ | ⟨length, bytes⟩
    · exact .inl .name
    by_cases short : bytes.length < length.toNat + 2
    · exact .inl (.rest short)
    · obtain ⟨name, port, more, named, whole, same⟩ := exists_name (Nat.le_of_not_lt short)
      have small : name.length < 256 := named ▸ length.toNat_lt
      rw [same]
      cases read : Text.text? name with
      | none => exact .inr ⟨.malformed, .unreadable small whole read more⟩
      | some text => exact .inr ⟨.granted, .granted (.name small whole (by rw [read]; rfl)) more⟩
  · exact .inr ⟨.malformed, .addressType ⟨one, three, four⟩ bytes⟩

theorem unfinished_or_replied (login : Login) (bytes : List UInt8) :
    Unfinished .reply bytes ∨ ∃ verdict, Says login .reply bytes verdict := by
  rcases bytes with _ | ⟨version, _ | ⟨code, _ | ⟨reserved, _ | ⟨type, more⟩⟩⟩⟩
  iterate 4 exact .inl (.reply (by simp))
  by_cases other : version = 5
  · subst other
    by_cases used : reserved = 0
    · subst used
      by_cases served : code = 0
      · subst served
        exact unfinished_or_served login type more
      · exact .inr ⟨.denied code, .denied served type more⟩
    · exact .inr ⟨.malformed, .reserved used code type more⟩
  · exact .inr ⟨.malformed, .replyVersion other code reserved type more⟩

/-- Whatever the answer to a login holds, it is unfinished, or says something, or lets the client in. -/
theorem unfinished_or_logged (login : Login) (bytes : List UInt8) :
    Unfinished .login bytes ∨ (∃ verdict, Says login .login bytes verdict) ∨ ∃ rest, bytes = 1 :: 0 :: rest := by
  rcases bytes with _ | ⟨version, _ | ⟨status, more⟩⟩
  iterate 2 exact .inl (.login (by simp))
  by_cases other : version = 1
  · subst other
    by_cases well : status = 0
    · exact .inr (.inr ⟨more, by rw [well]⟩)
    · exact .inr (.inl ⟨.rejected, .loginFailed well more⟩)
  · exact .inr (.inl ⟨.malformed, .loginVersion other status more⟩)

/-- Whatever method a proxy takes, its answer is unfinished, or says something, or names one that was offered. -/
theorem unfinished_or_chosen (login : Login) (bytes : List UInt8) :
    Unfinished .method bytes ∨ (∃ verdict, Says login .method bytes verdict) ∨
      (∃ rest, bytes = 5 :: 0 :: rest) ∨
      ∃ user password rest, login = some (user, password) ∧ bytes = 5 :: 2 :: rest := by
  rcases bytes with _ | ⟨version, _ | ⟨method, more⟩⟩
  iterate 2 exact .inl (.method (by simp))
  by_cases other : version = 5
  · subst other
    by_cases open_door : method = 0
    · exact .inr (.inr (.inl ⟨more, by rw [open_door]⟩))
    by_cases none_fits : method = 0xFF
    · subst none_fits
      exact .inr (.inl ⟨.rejected, .noMethod more⟩)
    by_cases password : method = 2
    · subst password
      rcases login with _ | ⟨user, password⟩
      · exact .inr (.inl ⟨.malformed, .unoffered none_fits open_door (fun _ => rfl) more⟩)
      · exact .inr (.inr (.inr ⟨user, password, more, rfl, rfl⟩))
    · exact .inr (.inl ⟨.malformed, .unoffered none_fits open_door (fun same => absurd same password) more⟩)
  · exact .inr (.inl ⟨.malformed, .methodVersion other method more⟩)

section

variable {login : Login} {asked : List UInt8} {s : Tape}

/-- A client that is let in learns what the proxy makes of its request. -/
theorem Admits.exists_judged {sent rest : List UInt8} (admits : Admits login s.bytes sent rest) :
    ∃ verdict, Judged login asked s verdict := by
  have awaits : Awaits asked login s.bytes .reply (sent ++ asked) rest := .reply admits
  cases taken : s.takes (sent ++ asked) with
  | false => exact ⟨_, .full awaits taken⟩
  | true =>
    rcases unfinished_or_replied login rest with unfinished | ⟨verdict, said⟩
    · exact ⟨_, .cut awaits taken unfinished⟩
    · exact ⟨verdict, .said awaits taken said⟩

theorem exists_judged (login : Login) (asked : List UInt8) (s : Tape) :
    ∃ verdict, Judged login asked s verdict := by
  have greeted : Awaits asked login s.bytes .method (greeting login) s.bytes := .method login s.bytes
  cases taken : s.takes (greeting login) with
  | false => exact ⟨_, .full greeted taken⟩
  | true =>
    rcases unfinished_or_chosen login s.bytes with
      unfinished | ⟨verdict, said⟩ | ⟨rest, chosen⟩ | ⟨user, password, rest, rfl, chosen⟩
    · exact ⟨_, .cut greeted taken unfinished⟩
    · exact ⟨verdict, .said greeted taken said⟩
    · exact Admits.exists_judged (chosen ▸ Admits.freely login rest)
    · have logging : Awaits asked (some (user, password)) s.bytes .login
          (greeting (some (user, password)) ++ passwordRequest user password) rest :=
        chosen ▸ .login user password rest
      cases taken : s.takes (greeting (some (user, password)) ++ passwordRequest user password) with
      | false => exact ⟨_, .full logging taken⟩
      | true =>
        rcases unfinished_or_logged (some (user, password)) rest with
          unfinished | ⟨verdict, said⟩ | ⟨rest, rfl⟩
        · exact ⟨_, .cut logging taken unfinished⟩
        · exact ⟨verdict, .said logging taken said⟩
        · exact Admits.exists_judged (chosen ▸ Admits.byPassword user password rest)

/-- The handshake of a client that has found nothing wrong with what it is to send. -/
def dialogue (login : Login) (address : Address) (port : UInt16) : Talk Failure Unit := do
  authenticate login
  request address port

/-- What the handshake comes to by each verdict. -/
inductive Follows : Verdict → Option (Except Failure Unit) → Prop where
  | granted : Follows .granted (some (.ok ()))
  | denied {code : UInt8} {denial : Denial} (named : Denial.ofCode? code = some denial) :
      Follows (.denied code) (some (.error (.denied denial)))
  | rejected {failure : Failure} (near : failure.isBeyond = false) : Follows .rejected (some (.error failure))
  | malformed {failure : Failure} (near : failure.isBeyond = false) : Follows .malformed (some (.error failure))
  | failed (fault : IoFault) : Follows (.brokenOff (some fault)) (some (.error (.io fault)))
  | silent : Follows (.brokenOff none) none

theorem hold_authenticate_password {user password rest : List UInt8}
    (taken : s.takes (greeting (some (user, password))) = true) (arrived : s.bytes = 5 :: 2 :: rest) :
    (authenticate (some (user, password))).hold .io s =
      (logIn user password).hold .io (s.after (greeting (some (user, password))) rest) := by
  exact Talk.hold_exchange_two _ taken arrived

theorem Admits.hold {sent rest : List UInt8} (admits : Admits login s.bytes sent rest)
    (taken : s.takes sent = true) :
    (authenticate login).hold .io s = (some (.ok ()), s.after sent rest) := by
  generalize arrived : s.bytes = bytes at admits
  cases admits with
  | freely _ rest =>
    exact Talk.hold_exchange_two _ taken arrived
  | byPassword user password rest =>
    obtain ⟨greeted, given⟩ := Tape.takes_append taken (1 :: 0 :: rest)
    rw [hold_authenticate_password greeted arrived, ← Tape.after_after (1 :: 0 :: rest)]
    exact Talk.hold_exchange_two _ given rfl

theorem Admits.hold_bind {sent rest : List UInt8} (admits : Admits login s.bytes sent rest)
    (taken : s.takes sent = true) (f : Unit → Talk Failure Unit) :
    (authenticate login >>= f).hold .io s = (f ()).hold .io (s.after sent rest) := by
  rw [Talk.hold_bind, admits.hold taken]

theorem hold_password_full {user password rest : List UInt8} (arrived : s.bytes = 5 :: 2 :: rest)
    (full : s.takes (greeting (some (user, password)) ++ passwordRequest user password) = false) :
    ((authenticate (some (user, password))).hold .io s).1 = some (.error (.io s.onFull)) := by
  cases greeted : s.takes (greeting (some (user, password))) with
  | false => exact Talk.hold_write_full _ greeted
  | true =>
    rw [hold_authenticate_password greeted arrived]
    exact Talk.hold_write_full _ ((Tape.takes_after greeted rest).trans full)

theorem Admits.hold_full {sent rest : List UInt8} (admits : Admits login s.bytes sent rest)
    (full : s.takes sent = false) :
    ((authenticate login).hold .io s).1 = some (.error (.io s.onFull)) := by
  generalize arrived : s.bytes = bytes at admits
  cases admits with
  | freely => exact Talk.hold_write_full _ full
  | byPassword => exact hold_password_full arrived full

theorem hold_skipName {name port more : List UInt8} (short : name.length < 256) (whole : port.length = 2)
    (arrived : s.bytes = counted name ++ port ++ more) :
    (skipBound 3).hold .io s =
      (some (if (Text.text? name).isNone then .error .unreadableName else .ok ()), { s with bytes := more }) := by
  have length : (UInt8.ofNat name.length).toNat = name.length := Nat.mod_eq_of_lt short
  have both : (name ++ port).length = name.length + 2 := by rw [List.length_append, whole]
  unfold skipBound
  rw [if_neg (by decide), if_neg (by decide), if_pos rfl, Talk.hold_read_one _ arrived]
  dsimp only
  rw [length, Talk.hold_read _ both rfl, List.take_left]
  split <;> rfl

theorem Bound.hold {type : UInt8} {address more : List UInt8} (bound : Bound type address)
    (arrived : s.bytes = address ++ more) :
    (skipBound type).hold .io s = (some (.ok ()), { s with bytes := more }) := by
  cases bound with
  | ip4 whole =>
    unfold skipBound
    rw [if_pos rfl, Talk.hold_read _ whole arrived]
    rfl
  | ip6 whole =>
    unfold skipBound
    rw [if_neg (by decide), if_pos rfl, Talk.hold_read _ whole arrived]
    rfl
  | name short whole readable =>
    rw [hold_skipName short whole arrived, if_neg]
    rw [← Option.not_isSome, readable]
    decide

/-- Every code but zero is that of a denial; the first six say that the proxy did what it could. -/
theorem denial_of_code {code : UInt8} (unserved : code ≠ 0) :
    ∃ denial, Denial.ofCode? code = some denial ∧ (denial.isBeyond = true ↔ code.toNat ≤ 6) := by
  have some_code : code.toNat ≠ 0 := fun zero => unserved (UInt8.toNat_inj.mp zero)
  unfold Denial.ofCode?
  match code.toNat, some_code with
  | 0, zero => exact absurd rfl zero
  | 1, _ | 2, _ | 3, _ | 4, _ | 5, _ | 6, _ | 7, _ | 8, _ => exact ⟨_, rfl, by decide⟩
  | n + 9, _ =>
    refine ⟨.unknown, rfl, ?_⟩
    simp only [Denial.isBeyond, Bool.false_eq_true, false_iff]
    omega

section

variable {address : Address} {port : UInt16}

/-- What the first bytes of a reply say is looked at in this order. -/
theorem hold_request_replied {version code reserved type : UInt8} {more : List UInt8}
    (taken : s.takes (connectRequest address port) = true)
    (arrived : s.bytes = version :: code :: reserved :: type :: more) :
    (request address port).hold .io s =
      (if version ≠ 5 then .fail .wrongVersion
        else if reserved ≠ 0 then .fail .reservedByte
        else
          match Denial.ofCode? code with
          | some denial => .fail (.denied denial)
          | none => skipBound type : Talk Failure Unit).hold .io (s.after (connectRequest address port) more) := by
  have four : s.bytes = [version, code, reserved, type] ++ more := arrived
  exact Talk.hold_exchange _ taken rfl four

theorem Bound.request {type : UInt8} {bound more : List UInt8} (wellFormed : Bound type bound)
    (taken : s.takes (connectRequest address port) = true)
    (arrived : s.bytes = 5 :: 0 :: 0 :: type :: (bound ++ more)) :
    (request address port).hold .io s = (some (.ok ()), s.after (connectRequest address port) more) := by
  rw [hold_request_replied taken arrived]
  exact wellFormed.hold rfl

theorem Says.request {verdict : Verdict} (said : Says login .reply s.bytes verdict)
    (taken : s.takes (connectRequest address port) = true) :
    Follows verdict ((request address port).hold .io s).1 := by
  generalize arrived : s.bytes = bytes at said
  cases said with
  | replyVersion other code reserved type more =>
    rw [hold_request_replied taken arrived, if_pos other]
    exact .malformed rfl
  | reserved used code type more =>
    rw [hold_request_replied taken arrived, if_neg (by decide), if_pos used]
    exact .malformed rfl
  | denied unserved type more =>
    obtain ⟨denial, named, -⟩ := denial_of_code unserved
    rw [hold_request_replied taken arrived, if_neg (by decide), if_neg (by decide), named]
    exact .denied named
  | addressType unknown more =>
    obtain ⟨one, three, four⟩ := unknown
    rw [hold_request_replied taken arrived, if_neg (by decide), if_neg (by decide)]
    change Follows .malformed ((skipBound _).hold .io _).1
    rw [skipBound, if_neg one, if_neg four, if_neg three]
    exact .malformed rfl
  | unreadable short whole unreadable more =>
    rw [hold_request_replied taken arrived, if_neg (by decide), if_neg (by decide)]
    change Follows .malformed ((skipBound 3).hold .io _).1
    rw [hold_skipName short whole rfl, unreadable]
    exact .malformed rfl
  | granted bound more =>
    rw [bound.request taken arrived]
    exact .granted

theorem Unfinished.request (unfinished : Unfinished .reply s.bytes)
    (taken : s.takes (connectRequest address port) = true) :
    ((request address port).hold .io s).1 = s.behind.map fun fault => .error (.io fault) := by
  generalize arrived : s.bytes = bytes at unfinished
  cases unfinished with
  | reply short => exact Talk.hold_exchange_short _ taken (arrived ▸ short)
  | ip4 short =>
    rw [hold_request_replied taken arrived]
    exact Talk.hold_read_short _ short
  | ip6 short =>
    rw [hold_request_replied taken arrived]
    exact Talk.hold_read_short _ short
  | name =>
    rw [hold_request_replied taken arrived]
    exact Talk.hold_read_short _ Nat.zero_lt_one
  | @rest length bytes short =>
    rw [hold_request_replied taken arrived]
    change ((skipBound 3).hold .io _).1 = _
    unfold skipBound
    rw [if_neg (by decide), if_neg (by decide), if_pos rfl, Talk.hold_read_one _ rfl]
    exact Talk.hold_read_short _ short

theorem Says.authenticate {verdict : Verdict} (said : Says login .method s.bytes verdict)
    (taken : s.takes (greeting login) = true) :
    ∃ failure, ((authenticate login).hold .io s).1 = some (.error failure) ∧
      Follows verdict (some (.error failure)) := by
  generalize arrived : s.bytes = bytes at said
  cases said with
  | @methodVersion version other method more =>
    unfold Socks.authenticate
    rw [Talk.hold_exchange_two _ taken arrived]
    dsimp only
    rw [if_pos other]
    exact ⟨_, rfl, .malformed rfl⟩
  | noMethod more =>
    unfold Socks.authenticate
    rw [Talk.hold_exchange_two _ taken arrived]
    exact ⟨_, rfl, .rejected rfl⟩
  | @unoffered method some_method locked password more =>
    unfold Socks.authenticate
    rw [Talk.hold_exchange_two _ taken arrived]
    dsimp only
    rw [if_neg (by decide), if_neg locked]
    by_cases asks : method = 2
    · rw [if_pos asks, password asks]
      exact ⟨_, rfl, .malformed rfl⟩
    · rw [if_neg asks, if_neg some_method]
      exact ⟨_, rfl, .malformed rfl⟩

theorem Says.logIn {user password : List UInt8} {verdict : Verdict} (said : Says login .login s.bytes verdict)
    (taken : s.takes (passwordRequest user password) = true) :
    ∃ failure, ((logIn user password).hold .io s).1 = some (.error failure) ∧
      Follows verdict (some (.error failure)) := by
  generalize arrived : s.bytes = bytes at said
  cases said with
  | @loginVersion version other status more =>
    unfold Socks.logIn
    rw [Talk.hold_exchange_two _ taken arrived]
    dsimp only
    rw [if_pos other]
    exact ⟨_, rfl, .malformed rfl⟩
  | @loginFailed status failed more =>
    unfold Socks.logIn
    rw [Talk.hold_exchange_two _ taken arrived]
    dsimp only
    rw [if_neg (by decide), if_pos failed]
    exact ⟨_, rfl, .rejected rfl⟩

theorem follows_behind (behind : Option IoFault) :
    Follows (.brokenOff behind) (behind.map fun fault => .error (Failure.io fault)) := by
  cases behind with
  | none => exact .silent
  | some fault => exact .failed fault

theorem Awaits.said {answer : Answer} {sent rest : List UInt8} {verdict : Verdict}
    (awaits : Awaits (connectRequest address port) login s.bytes answer sent rest) (taken : s.takes sent = true)
    (said : Says login answer rest verdict) : Follows verdict ((dialogue login address port).hold .io s).1 := by
  unfold dialogue
  generalize arrived : s.bytes = bytes at awaits
  cases awaits with
  | method =>
    subst arrived
    obtain ⟨failure, failed, follows⟩ := said.authenticate taken
    rw [Talk.hold_bind_error failed]
    exact follows
  | login user password =>
    obtain ⟨greeted, given⟩ := Tape.takes_append taken rest
    obtain ⟨failure, failed, follows⟩ := Says.logIn (s := s.after _ rest) said given
    rw [← hold_authenticate_password greeted arrived] at failed
    rw [Talk.hold_bind_error failed]
    exact follows
  | @reply _ _ sent _ admits =>
    subst arrived
    obtain ⟨let_in, given⟩ := Tape.takes_append taken rest
    rw [admits.hold_bind let_in]
    exact Says.request (s := s.after sent rest) said given

theorem Awaits.cut {answer : Answer} {sent rest : List UInt8}
    (awaits : Awaits (connectRequest address port) login s.bytes answer sent rest) (taken : s.takes sent = true)
    (unfinished : Unfinished answer rest) :
    ((dialogue login address port).hold .io s).1 = s.behind.map fun fault => .error (.io fault) := by
  unfold dialogue
  generalize arrived : s.bytes = bytes at awaits
  cases awaits with
  | method =>
    cases unfinished with
    | method short =>
      apply Talk.hold_bind_behind
      exact Talk.hold_exchange_short _ taken (arrived ▸ short)
  | login user password =>
    cases unfinished with
    | login short =>
      obtain ⟨greeted, given⟩ := Tape.takes_append taken rest
      apply Talk.hold_bind_behind
      rw [hold_authenticate_password greeted arrived]
      exact Talk.hold_exchange_short _ given short
  | @reply _ _ sent _ admits =>
    subst arrived
    obtain ⟨let_in, given⟩ := Tape.takes_append taken rest
    rw [admits.hold_bind let_in]
    exact Unfinished.request (s := s.after sent rest) unfinished given

theorem Awaits.full {answer : Answer} {sent rest : List UInt8}
    (awaits : Awaits (connectRequest address port) login s.bytes answer sent rest) (full : s.takes sent = false) :
    ((dialogue login address port).hold .io s).1 = some (.error (.io s.onFull)) := by
  unfold dialogue
  generalize arrived : s.bytes = bytes at awaits
  cases awaits with
  | method =>
    apply Talk.hold_bind_error
    exact Talk.hold_write_full _ full
  | login user password =>
    apply Talk.hold_bind_error
    exact hold_password_full arrived full
  | @reply _ _ sent _ admits =>
    subst arrived
    -- the room may have run out during the login already
    cases let_in : s.takes sent with
    | false => exact Talk.hold_bind_error (admits.hold_full let_in) _
    | true =>
      rw [admits.hold_bind let_in]
      exact Talk.hold_write_full _ ((Tape.takes_after let_in rest).trans full)

/-- The login and the request come to what the proxy makes of them. -/
theorem Judged.hold {verdict : Verdict} (judged : Judged login (connectRequest address port) s verdict) :
    Follows verdict ((dialogue login address port).hold .io s).1 := by
  cases judged with
  | said awaits taken said => exact awaits.said taken said
  | cut awaits taken unfinished =>
    rw [awaits.cut taken unfinished]
    exact follows_behind s.behind
  | full awaits full =>
    rw [awaits.full full]
    exact .failed s.onFull

end

end

end Passage.Socks
