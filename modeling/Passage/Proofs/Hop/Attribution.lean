import Passage.Proofs.Hop.Verdicts

namespace Passage.Socks

open Passage.Flow

/-- A user and a password fit into the protocol if each has a byte at least and 255 at most. -/
def Sendable (login : Login) : Prop :=
  ∀ user password, login = some (user, password) →
    (0 < user.length ∧ user.length ≤ 255) ∧ 0 < password.length ∧ password.length ≤ 255

theorem defect?_eq_none {login : Login} {host : String} (sendable : Sendable login)
    (short : (Text.bytes host).length ≤ 255) : defect? login (Address.ofHost host) = none := by
  have host_fits : defect? none (Address.ofHost host) = none := by
    unfold Address.ofHost
    cases ipLiteral? host with
    | none => exact if_neg (Nat.not_lt.mpr short)
    | some octets =>
      dsimp only
      split <;> rfl
  rcases login with _ | ⟨user, password⟩
  · exact host_fits
  · obtain ⟨⟨some_user, short_user⟩, some_password, short_password⟩ := sendable user password rfl
    have user_fits : ¬(user.isEmpty = true ∨ 255 < user.length) := by
      rw [List.isEmpty_iff_length_eq_zero]
      omega
    have password_fits : ¬(password.isEmpty = true ∨ 255 < password.length) := by
      rw [List.isEmpty_iff_length_eq_zero]
      omega
    unfold defect?
    simp only [Option.bind_some, if_neg user_fits, if_neg password_fits]
    exact host_fits

/-- How it shows that the other end has closed a stream, or that the stream was cut. -/
def closings : List IoKind :=
  [.unexpectedEof, .connectionReset, .connectionAborted, .brokenPipe]

theorem isClosed_iff {fault : IoFault} : fault.isClosed = true ↔ fault.kind ∈ closings := by
  rcases fault with ⟨kind, detail⟩
  cases kind <;> simp [IoFault.isClosed, closings]

/-- What a connect comes to if it is put down to where the verdict belongs: to what lies behind the proxy, which is
named then, for a denial and for a stream that closes, and to the proxy otherwise. -/
inductive Attributed (proxy : Proxy) (next : Endpoint) : Verdict → Course (Except Fault Unit) → Prop where
  | granted : Attributed proxy next .granted (.ends 0 (.ok ()))
  | denied (code : UInt8) (reason : String) :
      Attributed proxy next (.denied code)
        (.ends 0 (.error (.proxyForward proxy.address (reason ++ " (next hop " ++ next.text ++ ")") "")))
  | closed {fault : IoFault} (closed : fault.kind ∈ closings) (reason : String) :
      Attributed proxy next (.brokenOff (some fault))
        (.ends 0 (.error (.proxyForward proxy.address (reason ++ " (next hop " ++ next.text ++ ")") "")))
  | failed {fault : IoFault} (unclosed : fault.kind ∉ closings) (reason : String) :
      Attributed proxy next (.brokenOff (some fault)) (.ends 0 (.error (.proxyConnect proxy.address reason "")))
  /-- Four seconds are waited for what does not come. -/
  | silent (reason : String) :
      Attributed proxy next (.brokenOff none) (.ends 4000 (.error (.proxyConnect proxy.address reason "")))
  | rejected (reason : String) :
      Attributed proxy next .rejected (.ends 0 (.error (.proxyConnect proxy.address reason "")))
  | malformed (reason : String) :
      Attributed proxy next .malformed (.ends 0 (.error (.proxyConnect proxy.address reason "")))

section

variable {state : HopState} {proxy : Proxy} {next : Endpoint} {line : Line}

def settled (proxy : Proxy) (next : Endpoint) : Option (Except Failure Unit) → Course (Except Fault Unit)
  | some result => .ends 0 (result.mapError (·.blame proxy next))
  | none => .ends handshakeLimit (.error (.proxyConnect proxy.address "SOCKS5 handshake timed out" ""))

theorem connect_course (running : state.stopped = false) :
    (connect state proxy next none line).2.1 = (extend proxy next line).1 := by
  simp only [connect, HopState.run, running]
  cases (extend proxy next line).1 <;> rfl

theorem extend_course :
    (extend proxy next line).1 =
      settled proxy next ((handshake (loginOf proxy) next).hold .io line.tape).1 := by
  obtain ⟨same, -⟩ := Talk.run_eq_hold .io (handshake (loginOf proxy) next) line
  rw [← same, extend]
  generalize (handshake (loginOf proxy) next).run .io line = ended
  rcases ended with ⟨_ | result, left⟩ <;> rfl

theorem handshake_of_fits (sendable : Sendable (loginOf proxy)) (short : (Text.bytes next.host).length ≤ 255) :
    handshake (loginOf proxy) next = dialogue (loginOf proxy) (Address.ofHost next.host) next.port := by
  simp only [handshake, defect?_eq_none sendable short]
  rfl

theorem settled_error (failure : Failure) :
    settled proxy next (some (.error failure)) = .ends 0 (.error (failure.blame proxy next)) :=
  rfl

theorem settled_near (failure : Failure) (near : failure.isBeyond = false) :
    settled proxy next (some (.error failure)) =
      .ends 0 (.error (.proxyConnect proxy.address failure.text "")) := by
  have blamed : failure.blame proxy next = .proxyConnect proxy.address failure.text "" := by
    rw [Failure.blame, near]
    exact if_neg Bool.false_ne_true
  rw [settled_error, blamed]

theorem settled_beyond (failure : Failure) (beyond : failure.isBeyond = true) :
    settled proxy next (some (.error failure)) =
      .ends 0 (.error (.proxyForward proxy.address (failure.text ++ " (next hop " ++ next.text ++ ")") "")) := by
  have blamed : failure.blame proxy next =
      .proxyForward proxy.address (failure.text ++ " (next hop " ++ next.text ++ ")") "" := by
    rw [Failure.blame, beyond]
    exact if_pos rfl
  rw [settled_error, blamed]

/-- A denial is put down to where it belongs just if its code is one of the first six. -/
theorem denied_attributed_iff {code : UInt8} {denial : Denial} (named : Denial.ofCode? code = some denial) :
    Attributed proxy next (.denied code) (settled proxy next (some (.error (.denied denial)))) ↔
      code.toNat ≤ 6 := by
  have unserved : code ≠ 0 := by
    rintro rfl
    cases named
  obtain ⟨denial', same, beyond_iff⟩ := denial_of_code unserved
  obtain rfl : denial = denial' := Option.some.inj (named.symm.trans same)
  rw [← beyond_iff]
  cases beyond : denial.isBeyond with
  | true =>
    rw [settled_beyond (.denied denial) beyond]
    exact iff_of_true (.denied code denial.text) rfl
  | false =>
    rw [settled_near (.denied denial) beyond]
    exact iff_of_false (fun attributed => nomatch attributed) Bool.false_ne_true

/-- The hop goes by the verdict, unless it is a denial with a code above six. -/
theorem Follows.attributed_iff {verdict : Verdict} {result : Option (Except Failure Unit)}
    (follows : Follows verdict result) :
    Attributed proxy next verdict (settled proxy next result) ↔ ∀ code, verdict = .denied code → code.toNat ≤ 6 := by
  cases follows with
  | granted => exact iff_of_true .granted (fun _ denied => nomatch denied)
  | denied named =>
    rw [denied_attributed_iff named]
    exact ⟨fun early _ same => Verdict.denied.inj same ▸ early, fun early => early _ rfl⟩
  | rejected near =>
    rw [settled_near _ near]
    exact iff_of_true (.rejected _) (fun _ denied => nomatch denied)
  | malformed near =>
    rw [settled_near _ near]
    exact iff_of_true (.malformed _) (fun _ denied => nomatch denied)
  | failed fault =>
    refine iff_of_true ?_ (fun _ denied => nomatch denied)
    cases closed : fault.isClosed with
    | true =>
      rw [settled_beyond (.io fault) closed]
      exact .closed (isClosed_iff.mp closed) _
    | false =>
      have unclosed : fault.kind ∉ closings := by
        rw [← isClosed_iff, closed]
        exact Bool.false_ne_true
      rw [settled_near (.io fault) closed]
      exact .failed unclosed _
  | silent => exact iff_of_true (.silent _) (fun _ denied => nomatch denied)

theorem Follows.succeeds_iff {verdict : Verdict} {result : Option (Except Failure Unit)}
    (follows : Follows verdict result) :
    settled proxy next result = .ends 0 (.ok ()) ↔ verdict = .granted := by
  cases follows with
  | granted => exact iff_of_true rfl rfl
  | denied | rejected | malformed | failed | silent =>
    exact iff_of_false (fun succeeded => nomatch succeeded) (fun granted => nomatch granted)

/-- Whatever the stream of an open line holds, it is judged; and a connect on it succeeds just if it is granted, and
is put down to where its verdict belongs just if this is no denial with a code above six. -/
theorem connect_attributed_iff (running : state.stopped = false) (sendable : Sendable (loginOf proxy))
    (short : (Text.bytes next.host).length ≤ 255) :
    (∃ verdict, Judged (loginOf proxy) (connectRequest (Address.ofHost next.host) next.port) line.tape verdict) ∧
      ∀ verdict, Judged (loginOf proxy) (connectRequest (Address.ofHost next.host) next.port) line.tape verdict →
        ((connect state proxy next none line).2.1 = .ends 0 (.ok ()) ↔ verdict = .granted) ∧
        (Attributed proxy next verdict (connect state proxy next none line).2.1 ↔
          ∀ code, verdict = .denied code → code.toNat ≤ 6) := by
  refine ⟨exists_judged _ _ line.tape, ?_⟩
  intro verdict judged
  have follows := judged.hold
  rw [connect_course running, extend_course, handshake_of_fits sendable short]
  exact ⟨follows.succeeds_iff, follows.attributed_iff⟩

end

/-- A user is let in by password, and asks for a database that refuses the connection. -/
theorem connect_attributed_refused :
    let proxy : Proxy := { host := "proxy", port := 1080, userId := some "app", password := some "pw" }
    let next : Endpoint := ⟨"db.internal", 5432⟩
    let line : Line := { arrivals := [.bytes [5, 2, 1], .bytes [0, 5, 5, 0, 1]] }
    ({} : HopState).stopped = false ∧ Sendable (loginOf proxy) ∧ (Text.bytes next.host).length ≤ 255 ∧
      Judged (loginOf proxy) (connectRequest (Address.ofHost next.host) next.port) line.tape (.denied 5) ∧
      Attributed proxy next (.denied 5) (connect {} proxy next none line).2.1 := by
  intro proxy next line
  have sendable : Sendable (loginOf proxy) := by
    intro user password same
    cases same
    decide
  have short : (Text.bytes next.host).length ≤ 255 := by decide
  have judged : Judged (loginOf proxy) (connectRequest (Address.ofHost next.host) next.port) line.tape (.denied 5) :=
    .said (.reply (.byPassword _ _ [5, 5, 0, 1])) rfl (.denied (by decide) 1 [])
  have running : ({} : HopState).stopped = false := rfl
  refine ⟨running, sendable, short, judged, ?_⟩
  have attributed_iff := ((connect_attributed_iff running sendable short).2 _ judged).2
  rw [attributed_iff]
  intro code same
  cases same
  decide

/-- A proxy that does not support the command is blamed for it. -/
theorem unsupported_command_misattributed :
    let proxy : Proxy := { host := "proxy", port := 1080 }
    let next : Endpoint := ⟨"db.internal", 5432⟩
    let line : Line := { arrivals := [.bytes [5, 0], .bytes [5, 7, 0, 1, 0, 0, 0, 0, 0, 0]] }
    Judged (loginOf proxy) (connectRequest (Address.ofHost next.host) next.port) line.tape (.denied 7) ∧
      (connect {} proxy next none line).2.1 =
        .ends 0 (.error (.proxyConnect proxy.address "Command not supported" "")) ∧
      ¬Attributed proxy next (.denied 7) (connect {} proxy next none line).2.1 := by
  intro proxy next line
  have judged : Judged (loginOf proxy) (connectRequest (Address.ofHost next.host) next.port) line.tape (.denied 7) :=
    .said (.reply (.freely none [5, 7, 0, 1, 0, 0, 0, 0, 0, 0])) rfl (.denied (by decide) 1 _)
  have course : (connect {} proxy next none line).2.1 =
      .ends 0 (.error (.proxyConnect proxy.address "Command not supported" "")) := by
    have follows := judged.hold
    have anonymous : Sendable (loginOf proxy) := fun _ _ same => nomatch same
    rw [connect_course rfl, extend_course, handshake_of_fits anonymous (by decide)]
    generalize ((dialogue (loginOf proxy) _ _).hold .io line.tape).1 = result at follows ⊢
    cases follows with
    | denied named =>
      cases named
      exact settled_near _ rfl
  refine ⟨judged, course, ?_⟩
  rw [course]
  intro attributed
  nomatch attributed

end Passage.Socks
