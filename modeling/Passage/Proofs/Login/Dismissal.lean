import Passage.Proofs.Login.Conversations
import Passage.Proofs.Negotiation.Deadline
import Passage.Proofs.Negotiation.LastAttempt

namespace Passage

open Wire (Frame Notice Reply)

/-- An error in which the server says what a timeout says, and nothing else that would be shown. -/
structure Wire.Notice.ClaimsTimeout (n : Notice) : Prop where
  message : n.message = some Fault.timeoutMessage
  code : n.code = none
  detail : n.detail = none

/-- A code is shown in parentheses and a detail behind a colon, of which a timeout's message has neither. -/
theorem Wire.Notice.text_eq_timeoutMessage_iff {n : Notice} :
    n.text = Fault.timeoutMessage ↔ n.ClaimsTimeout := by
  obtain ⟨severity, code, message, detail⟩ := n
  constructor
  · intro same
    have shown (letter : Char) (inside : letter ∈ (text ⟨severity, code, message, detail⟩).toList) :
        letter ∈ Fault.timeoutMessage.toList := same ▸ inside
    cases code with
    | some c => exact absurd (shown '(' (by simp [text, String.toList_append])) (by decide)
    | none =>
      cases detail with
      | some d => exact absurd (shown ':' (by simp [text, String.toList_append])) (by decide)
      | none =>
        cases message with
        | none =>
          have words : "server error" ++ "" ++ "" = Fault.timeoutMessage := same
          exact absurd words (by decide)
        | some m =>
          have words : m = Fault.timeoutMessage := by simpa [text] using same
          exact ⟨congrArg some words, rfl, rfl⟩
  · rintro ⟨rfl, rfl, rfl⟩
    rfl

theorem Fault.isTimeout_of_ne {fault : Fault} (other : ∀ message uri, fault ≠ .databaseConnect message uri) :
    fault.isTimeout = false := by
  cases fault with
  | databaseConnect message uri => exact absurd rfl (other message uri)
  | _ => rfl

namespace Login

theorem isTimeout_serverFault_iff {n : Notice} : (serverFault n).isTimeout = true ↔ n.ClaimsTimeout := by
  unfold serverFault
  split
  · rename_i turnedDown
    constructor
    · nofun
    · intro claims
      rw [Notice.isAuthFailure, claims.code] at turnedDown
      cases turnedDown
  · rw [← Notice.text_eq_timeoutMessage_iff]
    exact decide_eq_true_iff

theorem isTimeout_unsaid {fault : Fault} (unsaid : Session.Unsaid fault) : fault.isTimeout = false := by
  cases unsaid <;> rfl

/-- What a login fails with over a message is the server's own error, or nothing that the database has said. -/
def Voices (reply : Reply) (fault : Fault) : Prop :=
  (∃ n, reply = .error n ∧ fault = serverFault n) ∨ ∀ message uri, fault ≠ .databaseConnect message uri

theorem Voices.isTimeout_iff {reply : Reply} {fault : Fault} (voices : Voices reply fault) :
    fault.isTimeout = true ↔ ∃ n, reply = .error n ∧ fault = serverFault n ∧ n.ClaimsTimeout := by
  constructor
  · intro timeout
    rcases voices with ⟨n, rfl, rfl⟩ | other
    · exact ⟨n, rfl, rfl, isTimeout_serverFault_iff.mp timeout⟩
    · rw [Fault.isTimeout_of_ne other] at timeout
      cases timeout
  · rintro ⟨n, -, rfl, claims⟩
    exact isTimeout_serverFault_iff.mpr claims

namespace Exchange

variable {p : Scram.Primitives} {c : Credentials} {e : Exchange} {reply : Reply} {fault : Fault}

theorem voices_fail {own : Fault} (failed : (e.fail own).next.stage = .failed fault)
    (other : ∀ message uri, own ≠ .databaseConnect message uri) : Voices reply fault := by
  cases failed
  exact .inr other

theorem listen_voices {mechanism : Option Report.Mechanism} (listens : e.stage = .listening mechanism)
    (failed : (e.listen c mechanism reply).next.stage = .failed fault) : Voices reply fault := by
  have goes : ¬ e.stage = .failed fault := by
    rw [listens]
    nofun
  cases reply with
  | auth request =>
    cases request with
    | ok => exact absurd failed goes
    | cleartext =>
      unfold listen answerCleartext at failed
      dsimp only at failed
      split at failed
      · exact voices_fail failed nofun
      · cases failed
    | md5 => exact voices_fail failed nofun
    | sasl mechanisms =>
      unfold listen answerOffer at failed
      dsimp only at failed
      split at failed
      · exact voices_fail failed nofun
      · split at failed
        · exact voices_fail failed nofun
        · cases failed
    | saslContinue data => exact voices_fail failed nofun
    | saslFinal data => exact voices_fail failed nofun
  | error n =>
    cases failed
    exact .inl ⟨n, rfl, rfl⟩
  | ready status => cases failed
  | keyData | parameter | notice => exact absurd failed goes

theorem prove_voices {client : Scram.Client}
    (failed : (e.prove p client reply).next.stage = .failed fault) : Voices reply fault := by
  unfold prove at failed
  split at failed
  · split at failed
    · exact voices_fail failed nofun
    · split at failed
      · exact voices_fail failed nofun
      · cases failed
  · rename_i n
    cases failed
    exact .inl ⟨n, rfl, rfl⟩
  · exact voices_fail failed nofun

theorem verify_voices {verifier : Scram.Verifier}
    (failed : (e.verify p verifier reply).next.stage = .failed fault) : Voices reply fault := by
  unfold verify at failed
  split at failed
  · split at failed
    · exact voices_fail failed nofun
    · split at failed
      · exact voices_fail failed nofun
      · cases failed
  · rename_i n
    cases failed
    exact .inl ⟨n, rfl, rfl⟩
  · exact voices_fail failed nofun

theorem receive_voices (unfinished : ¬ e.isOver = true)
    (failed : (e.receive p c reply).next.stage = .failed fault) : Voices reply fault := by
  unfold receive at failed
  cases stage : e.stage with
  | listening mechanism =>
    rw [stage] at failed
    exact listen_voices stage failed
  | proving client =>
    rw [stage] at failed
    exact prove_voices failed
  | verifying verifier =>
    rw [stage] at failed
    exact verify_voices failed
  | ready => exact absurd (by rw [isOver, stage]) unfinished
  | failed own => exact absurd (by rw [isOver, stage]) unfinished

/-- An error of the server ends the login wherever it comes. -/
theorem receive_error (unfinished : ¬ e.isOver = true) (n : Notice) :
    (e.receive p c (.error n)).next.stage = .failed (serverFault n) := by
  unfold receive
  cases stage : e.stage with
  | listening mechanism => rfl
  | proving client => rfl
  | verifying verifier => rfl
  | ready => exact absurd (by rw [isOver, stage]) unfinished
  | failed own => exact absurd (by rw [isOver, stage]) unfinished

end Exchange

namespace Session

variable {p : Scram.Primitives} {c : Credentials} {s t : Session} {fault : Fault}

theorem not_isOver_start (c : Credentials) : ¬ (start c).isOver = true :=
  Bool.false_ne_true

/-- A login that comes to its end does so with one of its messages, and the rest is not heard. -/
theorem reads_last {frames : List Frame} (unfinished : ¬ s.isOver = true)
    (finished : (s.reads p c frames).isOver = true) :
    ∃ spoken f behind, frames = spoken ++ f :: behind ∧ ¬ (s.reads p c spoken).isOver = true ∧
      s.reads p c frames = (s.reads p c spoken).read p c f := by
  induction frames generalizing s with
  | nil => exact absurd finished unfinished
  | cons f frames ih =>
    by_cases last : (s.read p c f).isOver = true
    · exact ⟨[], f, frames, rfl, unfinished, reads_over last frames⟩
    · obtain ⟨spoken, g, behind, rfl, still, ends⟩ := ih last finished
      exact ⟨f :: spoken, g, behind, rfl, still, ends⟩

theorem reads_behind {spoken : List Frame} {f : Frame} (behind : List Frame)
    (finished : ((s.reads p c spoken).read p c f).isOver = true) :
    s.reads p c (spoken ++ f :: behind) = (s.reads p c spoken).read p c f := by
  change (spoken ++ f :: behind).foldl (read p c) s = _
  rw [List.foldl_append]
  exact reads_over finished behind

theorem read_error (unfinished : ¬ s.isOver = true) {f : Frame} {n : Notice}
    (reading : f.reading = .ok (.error n)) :
    (s.read p c f).exchange.stage = .failed (serverFault n) := by
  rw [read_reply unfinished reading]
  exact Exchange.receive_error unfinished n

/-- A message over which a login looks timed out is an error of the server that claims so. -/
theorem read_timeout (unfinished : ¬ s.isOver = true) {f : Frame}
    (failed : (s.read p c f).exchange.stage = .failed fault) (timeout : fault.isTimeout = true) :
    ∃ n, f.reading = .ok (.error n) ∧ n.ClaimsTimeout := by
  cases reading : f.reading with
  | error unreadable =>
    rw [read_unreadable unfinished reading, fail, if_neg unfinished] at failed
    cases failed
    cases timeout
  | ok reply =>
    rw [read_reply unfinished reading] at failed
    obtain ⟨n, rfl, -, claims⟩ := (Exchange.receive_voices unfinished failed).isTimeout_iff.mp timeout
    exact ⟨n, rfl, claims⟩

/-- What ends a login besides its messages does not look like a timeout. -/
theorem Ends.timeout (ends : s.Ends t) (failed : t.exchange.stage = .failed fault)
    (timeout : fault.isTimeout = true) : s.exchange.stage = .failed fault := by
  rcases ends with ⟨left, rfl⟩ | ⟨other, unsaid, left, rfl⟩
  · exact failed
  · rcases fail_cases s other with same | ⟨-, fails⟩
    · rwa [same] at failed
    · cases fails.symm.trans failed
      rw [isTimeout_unsaid unsaid] at timeout
      cases timeout

theorem Ends.over (ends : s.Ends t) (finished : s.isOver = true) :
    t.exchange.stage = s.exchange.stage := by
  rcases ends with ⟨left, rfl⟩ | ⟨other, -, left, rfl⟩
  · rfl
  · rw [fail, if_pos finished]

end Session

theorem opened_failed_iff {ended : Option (Except Fault Unit)} {opened : Opened} {fault : Fault} :
    (ended.map fun result => result.map fun _ => opened) = some (.error fault) ↔
      ended = some (.error fault) := by
  rcases ended with none | fault | ok <;> simp [Except.map]

section

variable {ls : Settings} {around : Surroundings} {r : DriverRequest} {peer : Peer} {fault : Fault}

/-- While the client is logging in on the attempt, the server sends it this error. -/
def Dismisses (ls : Settings) (around : Surroundings) (r : DriverRequest) (peer : Peer) (n : Notice) : Prop :=
  ∃ spoken f behind, Converses ls around r peer (spoken ++ f :: behind) ∧ f.reading = .ok (.error n) ∧
    let c := credentialsFor ls around r
    ¬ ((Session.start c).reads around.primitives c spoken).isOver = true

theorem Converses.failed {frames : List Frame} (converses : Converses ls around r peer frames)
    (failed : (connect ls around r peer).course.outcome? = some (.error fault)) :
    let c := credentialsFor ls around r
    ∃ s, ((Session.start c).reads around.primitives c frames).Ends s ∧ s.exchange.stage = .failed fault := by
  obtain ⟨conn, s, -, talks, comes, ends⟩ := converses.ends
  rw [comes, opened_failed_iff, Connection.outcome?_failed_iff talks] at failed
  exact ⟨s, ends, failed⟩

/-- Where no login begins, nothing looks like a timeout. -/
theorem connect_speechless
    (failed : (connect ls around r peer).course.outcome? = some (.error fault))
    (speechless : ∀ frames, ¬ Converses ls around r peer frames) : fault.isTimeout = false := by
  cases made : (connect ls around r peer).connection with
  | some conn =>
    obtain ⟨tls, before, words, -, rfl, runs⟩ := connect_dialled made
    obtain ⟨last, comes⟩ := runs words
    let fresh := Connection.start (credentialsFor ls around r) r.serverName tls
    obtain rfl : conn = fresh.run around.primitives (words.map Prod.snd) :=
      Option.some.inj (made.symm.trans last)
    have unblaming : fresh.Unblaming := by cases tls <;> nofun
    apply Fault.isTimeout_of_ne
    apply unblaming.run around.primitives (words.map Prod.snd) fault
    rw [comes, opened_failed_iff] at failed
    unfold Connection.outcome? at failed
    split at failed
    · rename_i refused
      cases failed
      exact refused
    · rename_i talks
      obtain ⟨frames, converses⟩ := exists_converses made talks
      exact absurd converses (speechless frames)
    · cases failed
  | none =>
    cases ready : prepare ls around r with
    | error defect =>
      rw [connect_failed ready] at failed
      cases failed
      rfl
    | ok tls =>
      unfold connect at made failed
      rw [ready] at made failed
      dsimp only at made failed
      split at failed
      · cases failed
      · cases failed
        rfl
      · rename_i reached
        rw [reached] at made
        cases made

/-- An attempt fails with what looks like a timeout exactly if its server dismisses the client with the words
of one. -/
theorem connect_timeout_iff
    (failed : (connect ls around r peer).course.outcome? = some (.error fault)) :
    fault.isTimeout = true ↔ ∃ n, Dismisses ls around r peer n ∧ n.ClaimsTimeout := by
  let c := credentialsFor ls around r
  let p := around.primitives
  constructor
  · intro timeout
    obtain ⟨frames, converses⟩ : ∃ frames, Converses ls around r peer frames := by
      by_contra speechless
      rw [connect_speechless failed (not_exists.mp speechless)] at timeout
      cases timeout
    obtain ⟨s, ends, fails⟩ := converses.failed failed
    have said := ends.timeout fails timeout
    obtain ⟨spoken, f, behind, rfl, still, last⟩ :=
      Session.reads_last (Session.not_isOver_start c) (Session.isOver_of_failed said)
    rw [last] at said
    obtain ⟨n, reading, claims⟩ := Session.read_timeout still said timeout
    exact ⟨n, ⟨spoken, f, behind, converses, reading, still⟩, claims⟩
  · rintro ⟨n, ⟨spoken, f, behind, converses, reading, still⟩, claims⟩
    obtain ⟨s, ends, fails⟩ := converses.failed failed
    have said : ((Session.start c).reads p c (spoken ++ f :: behind)).exchange.stage =
        .failed (serverFault n) := by
      have ended := Session.read_error (p := p) (c := c) still reading
      rw [Session.reads_behind behind (Session.isOver_of_failed ended)]
      exact ended
    cases fails.symm.trans ((ends.over (Session.isOver_of_failed said)).trans said)
    exact isTimeout_serverFault_iff.mpr claims

end

/-- A request that is refused as it is put does not look timed out. -/
theorem resolve_untimed (options : Options) :
    FailsOnly (fun fault => fault.isTimeout = false) options.resolve := by
  refine options.resolve_fails (fun _ => rfl) fun text dialect => ?_
  simp only [TargetUri.invalid, String.append_assoc]
  exact Fault.isTimeout_append "Connection Uri \"" rfl (by decide : 'C' ≠ 'c') _ _

/-- Without a time limit and without hops, a request fails with what looks like a timeout exactly if the server
dismisses it in the last attempt with the words of one: an error whose message is that of a timeout, and which
has neither a code nor a detail. The server may know all attempts so far and say what it likes to each. -/
theorem untimed_timeout_iff {κ : Type} (ls : Settings) (around : Surroundings)
    (peers : List Attempted → DriverRequest → Peer) (name : List Attempted → Opened → κ)
    (s : Negotiation.Settings) (listen : Except IoFault UInt16) (options : Options)
    (unlimited : options.timeout = none) (unproxied : options.proxy = none)
    (unforwarded : options.ssh = none) {after : Nat} {fault : Fault}
    {w : Negotiation.World (List Attempted) κ}
    (failed : Negotiation.connect
      (driver ls around peers (fun seen a => seen ++ [a]) name fun seen _ => seen) s listen options [] =
        (.ends after (.error fault), w)) :
    fault.isTimeout = true ↔ ∃ seen request n,
      w.driver = seen ++ [connect ls around request (peers seen request)] ∧
      w.journal.attempts.getLast? = some request ∧
      Dismisses ls around request (peers seen request) n ∧ n.ClaimsTimeout := by
  rcases Negotiation.connect_failedIn unproxied unforwarded failed with
    ⟨untried, rfl⟩ | ⟨resolved, hr, timeout, last⟩
  · have untimed : fault.isTimeout = false := by
      rcases untried with refused | rfl
      · exact resolve_untimed options fault refused
      · rfl
    constructor
    · intro timeout
      exact absurd timeout (Bool.eq_false_iff.mp untimed)
    · rintro ⟨seen, request, n, none, -⟩
      exact absurd none.symm (List.append_ne_nil_of_right_ne_nil seen (List.cons_ne_nil _ _))
  · obtain ⟨seen, request, own, ended, rfl, left, asked⟩ := last.direct rfl (timeout.trans unlimited)
    have answered : (connect ls around request (peers seen request)).course.outcome? = some (.error own) := by
      change ((connect ls around request (peers seen request)).course.map _).outcome? = _ at ended
      rw [Course.outcome?_map, Option.map_eq_some_iff] at ended
      obtain ⟨result, ended, same⟩ := ended
      cases result with
      | ok opened => cases same
      | error fault =>
        cases same
        exact ended
    rw [Fault.isTimeout_classify, connect_timeout_iff answered]
    constructor
    · rintro ⟨n, dismisses, claims⟩
      exact ⟨seen, request, n, left, asked, dismisses, claims⟩
    · rintro ⟨seen', request', n, left', asked', dismisses, claims⟩
      cases asked.symm.trans asked'
      obtain ⟨rfl, -⟩ := List.append_inj' (left.symm.trans left') rfl
      exact ⟨n, dismisses, claims⟩

theorem messageType_ne_zero : (77 : UInt8) ≠ 0 := by decide

/-- A server that has no more to say than that the connection timed out. -/
def curt : Short :=
  ⟨.error ⟨[⟨77, ⟨Fault.timeoutMessage, by decide⟩, messageType_ne_zero⟩], by decide +kernel⟩, by decide⟩

def curtNotice : Notice where
  message := some Fault.timeoutMessage

def curtPeer : Peer := .ends 3 (.ok (conversation [(5, curt.frame.bytes)] .closes 2))

theorem reading_curt : curt.frame.reading = .ok (.error curtNotice) :=
  Wire.read_meaning curt.val

theorem stream_curt : stream [(5, curt.frame.bytes)] = [curt.frame].flatMap Frame.bytes ++ [] := by
  simp [stream]

theorem connect_curt {r : DriverRequest}
    (begins : (connect {} plainSurroundings r (.ends 3 (.ok []))).connection.map (·.step) =
      some (.talking (Session.start (credentialsFor {} plainSurroundings r)))) :
    (connect {} plainSurroundings r curtPeer).course.outcome? = some (.error (serverFault curtNotice)) := by
  let c := credentialsFor {} plainSurroundings r
  have ended : ((Session.start c).reads plainSurroundings.primitives c [curt.frame]).exchange.stage =
      .failed (serverFault curtNotice) :=
    Session.read_error (Session.not_isOver_start c) reading_curt
  refine conversation_failed begins stream_curt ?_
  rw [Session.left_over (Session.isOver_of_failed ended)]
  exact ended

abbrev curtDriver : Negotiation.Driver (List Attempted) Opened :=
  driver {} plainSurroundings (fun _ _ => curtPeer) (fun seen a => seen ++ [a]) (fun _ opened => opened)
    fun seen _ => seen

/-- A request without a time limit and without hops fails with the words of the server. -/
theorem connect_dismissed :
    ∃ after w, Negotiation.connect curtDriver {} (.error .unreachable)
        (Negotiation.asking .postgres (some .disabled)) [] =
      (.ends after (.error (.timedOut "postgres://db.internal:5000/")), w) := by
  let resolved : Resolved := {
    dialect := .postgres, host := "db.internal", port := 5000, serverName := "db.internal"
    database := none, user := none, password := none, sslMode := .disabled, proxy := none
    ssh := none, timeout := none, dialectOptions := none, uri := none }
  let route : Negotiation.Route := ⟨resolved, false, resolved.sanitizedUri⟩
  let start : Negotiation.World (List Attempted) Opened := ⟨[], []⟩
  have hr : (Negotiation.asking .postgres (some .disabled)).resolve = .ok resolved := rfl
  have hp : Negotiation.prepare (.error .unreachable) resolved start = (.ok (route, none), start) := rfl
  have tried : (Negotiation.attempt curtDriver {} route .disabled start).1.outcome? =
      some (.error (.timedOut route.uri)) := by
    rw [Negotiation.attempt_outcome]
    change ((connect {} plainSurroundings (route.request {} .disabled) curtPeer).course.map
      _).outcome?.map _ = _
    rw [Course.outcome?_map, connect_curt rfl]
    rfl
  have chosen : Negotiation.chooseMode curtDriver {} route start = (.ends 0 (.ok .disabled), start) := rfl
  obtain ⟨-, granted⟩ := Negotiation.connect_negotiate curtDriver {} hr hp
  rw [Negotiation.negotiate, chosen] at granted
  dsimp only at granted
  rw [Course.outcome?_later, Course.outcome?_map, tried] at granted
  obtain ⟨result, ended, same⟩ := Option.map_eq_some_iff.mp granted
  obtain ⟨after, ends⟩ := Course.ends_of_outcome? ended
  cases result with
  | ok e => cases same
  | error fault =>
    cases same
    have named : route.uri = "postgres://db.internal:5000/" := by decide +kernel
    rw [named] at ends
    exact ⟨after, _, Prod.ext ends rfl⟩

/-- A timeout is reported though nothing has a time limit. -/
theorem dismissal_looks_timed_out :
    let options := Negotiation.asking .postgres (some .disabled)
    options.timeout = none ∧ options.proxy = none ∧ options.ssh = none ∧
      ∃ after fault w, Negotiation.connect curtDriver {} (.error .unreachable) options [] =
          (.ends after (.error fault), w) ∧ fault.isTimeout = true := by
  intro options
  obtain ⟨after, w, failed⟩ := connect_dismissed
  exact ⟨rfl, rfl, rfl, after, _, w, failed, rfl⟩

theorem untimed_timeout_dismissed :
    let options := Negotiation.asking .postgres (some .disabled)
    options.timeout = none ∧ options.proxy = none ∧ options.ssh = none ∧
      ∃ after fault w, Negotiation.connect curtDriver {} (.error .unreachable) options [] =
          (.ends after (.error fault), w) ∧
        ∃ seen request n, w.driver = seen ++ [connect {} plainSurroundings request curtPeer] ∧
          Dismisses {} plainSurroundings request curtPeer n ∧ n.ClaimsTimeout := by
  intro options
  obtain ⟨after, w, failed⟩ := connect_dismissed
  obtain ⟨seen, request, n, left, -, dismisses, claims⟩ :=
    (untimed_timeout_iff {} plainSurroundings (fun _ _ => curtPeer) (fun _ opened => opened) {}
      (.error .unreachable) options rfl rfl rfl failed).mp rfl
  exact ⟨rfl, rfl, rfl, after, _, w, failed, seen, request, n, left, dismisses, claims⟩

end Login
end Passage
