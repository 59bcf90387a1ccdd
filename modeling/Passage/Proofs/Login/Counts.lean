import Passage.Proofs.Login.Conversations
import Passage.Proofs.Login.Notices

namespace Passage

open Report (Mechanism Metric)
open Wire (Frame Reply)

section

variable (m : Mechanism) (metrics : List Metric)

/-- How often logins by a mechanism were attempted. -/
def authAttempts : Nat := metrics.count (.authAttempted m)

/-- How often they succeeded. -/
def authSuccesses : Nat := metrics.count (.authSucceeded m)

/-- How often it was recorded how long they took. -/
def authTimings : Nat := metrics.count (.authTimed m)

end

def allSuccesses (metrics : List Metric) : Nat :=
  authSuccesses .cleartext metrics + authSuccesses .scram metrics

/-- What is counted can have been counted during one login. -/
structure Consistent (metrics : List Metric) : Prop where
  once : allSuccesses metrics ≤ 1
  attempted : ∀ m, authSuccesses m metrics ≤ authAttempts m metrics
  timed : ∀ m, authTimings m metrics = authSuccesses m metrics

/-- What is counted when there were so many successes: each was attempted before, and each is timed. -/
structure Tallied (metrics : List Metric) (successes : Nat) : Prop where
  all : allSuccesses metrics = successes
  attempted : ∀ m, 0 < authSuccesses m metrics → 0 < authAttempts m metrics
  timed : ∀ m, authTimings m metrics = authSuccesses m metrics

namespace Tallied

variable {metrics : List Metric} {n : Nat}

theorem nil : Tallied [] 0 :=
  ⟨rfl, fun _ => nofun, fun _ => rfl⟩

theorem attempt (h : Tallied metrics n) (m : Mechanism) : Tallied (metrics ++ [.authAttempted m]) n where
  all := by
    rw [← h.all]
    simp [allSuccesses, authSuccesses]
  attempted other succeeded := by
    have before := h.attempted other (by simpa [authSuccesses] using succeeded)
    rw [authAttempts, List.count_append]
    exact Nat.add_pos_left before _
  timed other := by simpa [authTimings, authSuccesses] using h.timed other

theorem attempts (h : Tallied metrics n) {more : List Metric}
    (attempts : more = [] ∨ ∃ m, more = [.authAttempted m]) : Tallied (metrics ++ more) n := by
  rcases attempts with rfl | ⟨m, rfl⟩
  · rwa [List.append_nil]
  · exact h.attempt m

theorem success (h : Tallied metrics n) {m : Mechanism} (attempted : 0 < authAttempts m metrics) :
    Tallied (metrics ++ [.authSucceeded m, .authTimed m]) (n + 1) where
  all := by
    rw [← h.all]
    cases m <;> simp [allSuccesses, authSuccesses] <;> omega
  attempted other succeeded := by
    have kept : authAttempts other (metrics ++ [.authSucceeded m, .authTimed m]) =
        authAttempts other metrics := by simp [authAttempts]
    rw [kept]
    by_cases same : m = other
    · exact same ▸ attempted
    · apply h.attempted
      simpa [authSuccesses, same] using succeeded
  timed other := by
    have before := h.timed other
    unfold authTimings authSuccesses at before
    by_cases same : m = other
    · simp [authTimings, authSuccesses, same, before]
    · simp [authTimings, authSuccesses, same, before]

theorem consistent_iff (h : Tallied metrics n) : Consistent metrics ↔ n ≤ 1 := by
  constructor
  · intro consistent
    exact h.all ▸ consistent.once
  · intro once
    refine ⟨h.all.symm ▸ once, fun m => ?_, h.timed⟩
    have each : authSuccesses m metrics ≤ allSuccesses metrics := by
      cases m with
      | cleartext => exact Nat.le_add_right _ _
      | scram => exact Nat.le_add_left _ _
    by_cases succeeded : 0 < authSuccesses m metrics
    · have := h.attempted m succeeded
      have := h.all
      omega
    · omega

end Tallied

namespace Login

/-- The mechanism that a success would be put down to. -/
def Stage.mechanism? : Stage → Option Mechanism
  | .listening mechanism => mechanism
  | .proving _ | .verifying _ => some .scram
  | .ready | .failed _ => none

namespace Exchange

/-- All that a message can add to what is counted. -/
inductive Adds (e : Exchange) (reply : Reply) (r : Reaction) : Prop where
  | ended (ends : r.next.isOver = true) (attempts : r.metrics = [] ∨ ∃ m, r.metrics = [.authAttempted m])
  | asked (m : Mechanism) (unwelcome : reply ≠ .auth .ok)
      (next : r.next.stage.mechanism? = some m) (answers : r.packets ≠ [])
      (attempt : r.metrics = [.authAttempted m])
  | welcomed (told : reply = .auth .ok) (same : r = e.accepted e.stage.mechanism?)
  | went (unwelcome : reply ≠ .auth .ok)
      (same : r.next.stage.mechanism? = e.stage.mechanism?)
      (silent : r.packets ≠ [] → e.stage.mechanism?.isSome) (quiet : r.metrics = [])

variable {p : Scram.Primitives} {c : Credentials} {e : Exchange} {reply : Reply}

theorem adds_fail (fault : Fault) : Adds e reply (e.fail fault) :=
  .ended rfl (.inl rfl)

theorem listen_adds (c : Credentials) {mechanism : Option Mechanism}
    (listens : e.stage = .listening mechanism) (reply : Reply) :
    Adds e reply (e.listen c mechanism reply) := by
  cases reply with
  | auth request =>
    cases request with
    | ok => exact .welcomed rfl (by rw [listens]; rfl)
    | cleartext =>
      cases given : c.password with
      | none =>
        rw [listen, answerCleartext, given]
        exact .ended rfl (.inr ⟨_, rfl⟩)
      | some password =>
        rw [listen, answerCleartext, given]
        exact .asked .cleartext (by simp) rfl (List.cons_ne_nil _ _) rfl
    | md5 => exact adds_fail _
    | sasl mechanisms =>
      by_cases offered : Scram.mechanism ∈ mechanisms
      · cases given : c.password with
        | none =>
          rw [listen, answerOffer, if_neg (not_not_intro offered), given]
          exact .ended rfl (.inr ⟨_, rfl⟩)
        | some password =>
          rw [listen, answerOffer, if_neg (not_not_intro offered), given]
          exact .asked .scram (by simp) rfl (List.cons_ne_nil _ _) rfl
      · rw [listen, answerOffer, if_pos offered]
        exact .ended rfl (.inr ⟨_, rfl⟩)
    | saslContinue data => exact adds_fail _
    | saslFinal data => exact adds_fail _
  | keyData | parameter | notice => exact .went (by simp) rfl (absurd rfl) rfl
  | error n => exact adds_fail _
  | ready status => exact .ended rfl (.inl rfl)

theorem prove_adds (p : Scram.Primitives) {client : Scram.Client} (proves : e.stage = .proving client)
    (reply : Reply) : Adds e reply (e.prove p client reply) := by
  unfold prove
  split
  · split
    · exact adds_fail _
    · split
      · exact adds_fail _
      · exact .went nofun (by rw [proves]; rfl) (fun _ => by rw [proves]; rfl) rfl
  · exact adds_fail _
  · exact adds_fail _

theorem verify_adds (p : Scram.Primitives) {verifier : Scram.Verifier}
    (verifies : e.stage = .verifying verifier) (reply : Reply) :
    Adds e reply (e.verify p verifier reply) := by
  unfold verify
  split
  · split
    · exact adds_fail _
    · split
      · exact adds_fail _
      · exact .went nofun (by rw [verifies]; rfl) (absurd rfl) rfl
  · exact adds_fail _
  · exact adds_fail _

theorem receive_adds (p : Scram.Primitives) (c : Credentials) (unfinished : ¬ e.isOver = true)
    (reply : Reply) : Adds e reply (e.receive p c reply) := by
  unfold receive
  cases stage : e.stage with
  | listening mechanism => exact listen_adds c stage reply
  | proving client => exact prove_adds p stage reply
  | verifying verifier => exact verify_adds p stage reply
  | ready => exact absurd (by rw [isOver, stage]) unfinished
  | failed own => exact absurd (by rw [isOver, stage]) unfinished

end Exchange

namespace Session

/-- The message lets the client in: it has answered for itself before, and the login goes on. -/
def welcomed (p : Scram.Primitives) (c : Credentials) (s : Session) (f : Frame) : Bool :=
  match f.reading with
  | .ok (.auth .ok) => 1 < s.sent.length && !(s.read p c f).isOver
  | _ => false

/-- How often the server lets the client in. -/
def welcomes (p : Scram.Primitives) (c : Credentials) (s : Session) : List Frame → Nat
  | [] => 0
  | f :: frames => (s.welcomed p c f).toNat + (s.read p c f).welcomes p c frames

/-- What a session has counted when the server has let the client in so many times. A success would be put
down to the mechanism by which the client has answered for itself. -/
structure Counted (s : Session) (welcomes : Nat) : Prop where
  tallied : Tallied s.metrics welcomes
  labelled : ∀ m, s.exchange.stage.mechanism? = some m → 0 < authAttempts m s.metrics
  opened : 0 < s.sent.length
  answered : ¬ s.isOver = true → (s.exchange.stage.mechanism?.isSome ↔ 1 < s.sent.length)

variable {p : Scram.Primitives} {c : Credentials} {s t : Session} {n : Nat} {r : Reaction}

theorem counted_start (c : Credentials) : (start c).Counted 0 where
  tallied := .nil
  labelled _ := nofun
  opened := Nat.one_pos
  answered _ := by simp [start, Stage.mechanism?]

theorem mechanism?_of_isOver {e : Exchange} (finished : e.isOver = true) : e.stage.mechanism? = none := by
  unfold Exchange.isOver at finished
  split at finished
  · rename_i ready
    rw [ready]
    rfl
  · rename_i failed
    rw [failed]
    rfl
  · cases finished

theorem opened_take (opened : 0 < s.sent.length) (r : Reaction) : 0 < (s.take r).sent.length := by
  change 0 < (s.sent ++ r.packets).length
  rw [List.length_append]
  exact Nat.add_pos_left opened _

theorem Counted.ended (h : s.Counted n) (ends : r.next.isOver = true)
    (attempts : r.metrics = [] ∨ ∃ m, r.metrics = [.authAttempted m]) : (s.take r).Counted n where
  tallied := h.tallied.attempts attempts
  labelled m label := by
    rw [show (s.take r).exchange = r.next from rfl, mechanism?_of_isOver ends] at label
    cases label
  opened := opened_take h.opened r
  answered unfinished := absurd ends unfinished

theorem Counted.asked (h : s.Counted n) {m : Mechanism} (next : r.next.stage.mechanism? = some m)
    (answers : r.packets ≠ []) (attempt : r.metrics = [.authAttempted m]) : (s.take r).Counted n where
  tallied := h.tallied.attempts (.inr ⟨m, attempt⟩)
  labelled other label := by
    cases next.symm.trans label
    change 0 < authAttempts m (s.metrics ++ r.metrics)
    rw [attempt]
    simp [authAttempts]
  opened := opened_take h.opened r
  answered _ := by
    have said : 0 < r.packets.length := List.length_pos_iff.mpr answers
    have opened := h.opened
    change r.next.stage.mechanism?.isSome ↔ 1 < (s.sent ++ r.packets).length
    rw [next, List.length_append]
    exact ⟨fun _ => by omega, fun _ => rfl⟩

theorem Counted.went (h : s.Counted n) (unfinished : ¬ s.isOver = true)
    (same : r.next.stage.mechanism? = s.exchange.stage.mechanism?)
    (silent : r.packets ≠ [] → s.exchange.stage.mechanism?.isSome) (quiet : r.metrics = []) :
    (s.take r).Counted n where
  tallied := h.tallied.attempts (.inl quiet)
  labelled m label := by
    change 0 < authAttempts m (s.metrics ++ r.metrics)
    rw [quiet, List.append_nil]
    exact h.labelled m (same.symm.trans label)
  opened := opened_take h.opened r
  answered _ := by
    have before := h.answered unfinished
    change r.next.stage.mechanism?.isSome ↔ 1 < (s.sent ++ r.packets).length
    rw [same, List.length_append]
    by_cases said : r.packets = []
    · rw [said]
      exact before
    · have answered := before.mp (silent said)
      exact ⟨fun _ => by omega, fun _ => silent said⟩

/-- A yes of the server is a success if the client has answered for itself, and nothing otherwise. -/
theorem Counted.accepted (h : s.Counted n) (unfinished : ¬ s.isOver = true) :
    (s.take (s.exchange.accepted s.exchange.stage.mechanism?)).Counted
      (n + (decide (1 < s.sent.length)).toNat) := by
  have answered := h.answered unfinished
  cases label : s.exchange.stage.mechanism? with
  | none =>
    rw [label] at answered
    have unanswered : ¬ 1 < s.sent.length := fun said => nomatch answered.mpr said
    rw [decide_eq_false unanswered]
    exact h.went unfinished rfl (absurd rfl) rfl
  | some m =>
    rw [label] at answered
    have said : 1 < s.sent.length := answered.mp rfl
    have attempted := h.labelled m label
    rw [decide_eq_true said]
    refine ⟨h.tallied.success attempted, fun other same => ?_, opened_take h.opened _, fun _ => ?_⟩
    · cases label.symm.trans same
      change 0 < authAttempts m (s.metrics ++ [.authSucceeded m, .authTimed m])
      simpa [authAttempts] using attempted
    · change s.exchange.stage.mechanism?.isSome ↔ 1 < (s.sent ++ []).length
      rw [label, List.append_nil]
      exact answered

theorem welcomed_of_ne {f : Frame} {reply : Reply} (reading : f.reading = .ok reply)
    (other : reply ≠ .auth .ok) : s.welcomed p c f = false := by
  unfold welcomed
  rw [reading]
  split
  · rename_i told
    cases told
    exact absurd rfl other
  · rfl

theorem welcomed_of_over {f : Frame} (finished : (s.read p c f).isOver = true) :
    s.welcomed p c f = false := by
  unfold welcomed
  split
  · rw [finished, Bool.not_true, Bool.and_false]
  · rfl

theorem Counted.read (h : s.Counted n) (f : Frame) :
    (s.read p c f).Counted (n + (s.welcomed p c f).toNat) := by
  by_cases finished : s.isOver = true
  · have silenced : (s.read p c f).isOver = true := by rwa [read_over finished]
    rw [welcomed_of_over silenced, read_over finished]
    exact h
  cases reading : f.reading with
  | error fault =>
    have silenced : (s.read p c f).isOver = true := by
      rw [read_unreadable finished reading]
      exact isOver_fail s _
    rw [welcomed_of_over silenced, read_unreadable finished reading, fail, if_neg finished]
    exact h.ended rfl (.inl rfl)
  | ok reply =>
    have taken := read_reply (p := p) (c := c) finished reading
    cases Exchange.receive_adds p c finished reply with
    | ended ends attempts =>
      have silenced : (s.read p c f).isOver = true := taken ▸ ends
      rw [welcomed_of_over silenced, taken]
      exact h.ended ends attempts
    | asked m unwelcome next answers attempt =>
      rw [welcomed_of_ne reading unwelcome, taken]
      exact h.asked next answers attempt
    | went unwelcome same silent quiet =>
      rw [welcomed_of_ne reading unwelcome, taken]
      exact h.went finished same silent quiet
    | welcomed told same =>
      subst told
      have goes : (s.read p c f).isOver = s.isOver := by
        rw [taken, same]
        rfl
      have success : s.welcomed p c f = decide (1 < s.sent.length) := by
        unfold welcomed
        rw [reading]
        dsimp only
        rw [goes, Bool.eq_false_iff.mpr finished, Bool.not_false, Bool.and_true]
      rw [success, taken, same]
      exact h.accepted finished

theorem Counted.reads (h : s.Counted n) (frames : List Frame) :
    (s.reads p c frames).Counted (n + s.welcomes p c frames) := by
  induction frames generalizing s n with
  | nil => exact h
  | cons f frames ih =>
    rw [welcomes, ← Nat.add_assoc]
    exact ih (h.read f)

theorem Ends.metrics (ends : s.Ends t) : t.metrics = s.metrics := by
  rcases ends with ⟨left, rfl⟩ | ⟨fault, -, left, rfl⟩
  · rfl
  · unfold fail
    split
    · rfl
    · exact List.append_nil _

end Session

def Attempted.metrics (a : Attempted) : List Metric := (a.connection.map (·.metrics)).getD []

section

variable {ls : Settings} {around : Surroundings} {r : DriverRequest} {peer : Peer}

theorem Converses.metrics {frames : List Frame} (converses : Converses ls around r peer frames) :
    let c := credentialsFor ls around r
    (connect ls around r peer).metrics = ((Session.start c).reads around.primitives c frames).metrics := by
  intro c
  obtain ⟨conn, s, made, talks, -, ends⟩ := converses.ends
  rw [Attempted.metrics, made, Option.map_some, Option.getD_some, Connection.metrics,
    Connection.session?, talks]
  exact ends.metrics

theorem Converses.tallied {frames : List Frame} (converses : Converses ls around r peer frames) :
    let c := credentialsFor ls around r
    Tallied (connect ls around r peer).metrics
      ((Session.start c).welcomes around.primitives c frames) := by
  intro c
  have counted := (Session.counted_start c).reads (p := around.primitives) (c := c) frames
  rw [Nat.zero_add] at counted
  rw [converses.metrics]
  exact counted.tallied

theorem metrics_speechless (speechless : ∀ frames, ¬ Converses ls around r peer frames) :
    (connect ls around r peer).metrics = [] := by
  unfold Attempted.metrics
  cases made : (connect ls around r peer).connection with
  | none => rfl
  | some conn =>
    rw [Option.map_some, Option.getD_some, Connection.metrics, Connection.session?]
    split
    · rename_i talks
      obtain ⟨frames, converses⟩ := exists_converses made talks
      exact absurd converses (speechless frames)
    · rfl

end

/-- Whatever a server says, each success that is counted is timed and was attempted before, and there are as
many as the server lets the client in after it has answered for itself. What is counted is that of one login
exactly if the server does so at most once. -/
theorem consistent_iff_welcomed_once (ls : Settings) (around : Surroundings) (r : DriverRequest)
    (peer : Peer) :
    let c := credentialsFor ls around r
    let metrics := (connect ls around r peer).metrics
    (∀ frames, Converses ls around r peer frames →
      let welcomes := (Session.start c).welcomes around.primitives c frames
      Tallied metrics welcomes ∧ (Consistent metrics ↔ welcomes ≤ 1)) ∧
    ((∀ frames, ¬ Converses ls around r peer frames) → metrics = []) := by
  intro c metrics
  refine ⟨fun frames converses => ?_, metrics_speechless⟩
  exact ⟨converses.tallied, converses.tallied.consistent_iff⟩

theorem accepted_fits : Wire.Message.accepted.body.length + 4 ≤ Wire.maxLength := by decide

/-- A server that asks for the password and lets the client in, and goes on so many times to let it in. -/
def gracious (again : Nat) : List Frame :=
  (⟨.cleartext, by decide⟩ :: List.replicate again ⟨.accepted, accepted_fits⟩ ++ welcome :
    List Short).map Short.frame

def welcomedAgain (again : Nat) : Attempted :=
  connect {} plainSurroundings clearRequest
    (.ends 3 (.ok (conversation [(5, (gracious again).flatMap Frame.bytes)] .closes 2)))

theorem begins_clear : (connect {} plainSurroundings clearRequest (.ends 3 (.ok []))).connection.map (·.step) =
    some (.talking (Session.start (credentialsFor {} plainSurroundings clearRequest))) := rfl

theorem stream_gracious (again : Nat) : stream [(5, (gracious again).flatMap Frame.bytes)] =
    (gracious again).flatMap Frame.bytes ++ [] := by
  simp [stream]

theorem converses_gracious (again : Nat) :
    Converses {} plainSurroundings clearRequest
      (.ends 3 (.ok (conversation [(5, (gracious again).flatMap Frame.bytes)] .closes 2)))
      (gracious again) :=
  converses_conversation begins_clear (stream_gracious again) nofun .closes 2

theorem consistent_welcomed :
    Consistent (welcomedAgain 0).metrics ∧ authSuccesses .cleartext (welcomedAgain 0).metrics = 1 := by
  have converses := converses_gracious 0
  have counted := ((consistent_iff_welcomed_once {} plainSurroundings clearRequest _).1 _ converses).2
  refine ⟨counted.mpr (by decide +kernel), ?_⟩
  rw [welcomedAgain, converses.metrics]
  decide +kernel

/-- A server that lets the client in twice: the login ends well, and there are more successes than attempts. -/
theorem success_counted_twice :
    let a := welcomedAgain 1
    (∃ opened, a.course.outcome? = some (.ok opened)) ∧ authAttempts .cleartext a.metrics = 1 ∧
      authSuccesses .cleartext a.metrics = 2 ∧ ¬ Consistent a.metrics := by
  intro a
  have told : a.metrics = [.authAttempted .cleartext, .authSucceeded .cleartext, .authTimed .cleartext,
      .authSucceeded .cleartext, .authTimed .cleartext] := by
    rw [show a.metrics = _ from (converses_gracious 1).metrics]
    decide +kernel
  have ready : ((Session.start (credentialsFor {} plainSurroundings clearRequest)).reads
      plainSurroundings.primitives (credentialsFor {} plainSurroundings clearRequest)
        (gracious 1)).exchange.stage = .ready := by
    apply Exchange.stage_of_isReady
    decide +kernel
  refine ⟨conversation_ready begins_clear (stream_gracious 1) ?_, ?_⟩
  · rw [Session.left_over (Session.isOver_of_ready ready)]
    exact ready
  rw [told]
  refine ⟨rfl, rfl, fun consistent => ?_⟩
  exact absurd consistent.once (by decide)

end Login
end Passage
