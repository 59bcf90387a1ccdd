import Passage.Proofs.Login.Upgrade
import Passage.Proofs.Negotiation.Deadline
import Passage.Proofs.Target.Resolving

namespace Passage

namespace Course

variable {α β : Type} {limit : Nat}

theorem Beyond.map {course : Course α} (beyond : course.Beyond limit) (f : α → β) :
    (course.map f).Beyond limit := by
  intro after outcome h
  obtain ⟨a, ended, -⟩ := map_eq_ends h
  exact beyond after a ended

theorem beyond_never : (never : Course α).Beyond limit := by
  intro after outcome h
  cases h

theorem beyond_ends_iff {after : Nat} {outcome : α} :
    (ends after outcome).Beyond limit ↔ limit < after := by
  constructor
  · intro beyond
    exact beyond after outcome rfl
  · intro late other result h
    cases h
    exact late

theorem beyond_later_iff {delay : Nat} {course : Course α} (begun : delay ≤ limit) :
    (course.later delay).Beyond limit ↔ course.Beyond (limit - delay) := by
  cases course with
  | never => exact ⟨fun _ => beyond_never, fun _ => beyond_never⟩
  | ends after outcome =>
    rw [later, beyond_ends_iff, beyond_ends_iff]
    omega

theorem beyond_later {delay : Nat} (late : limit < delay) (course : Course α) :
    (course.later delay).Beyond limit := by
  cases course with
  | never => exact beyond_never
  | ends after outcome =>
    rw [later, beyond_ends_iff]
    exact Nat.lt_of_lt_of_le late (Nat.le_add_right delay after)

end Course

namespace Login

theorem Session.hear_over {p : Scram.Primitives} {c : Credentials} {s : Session}
    (finished : s.isOver = true) (event : Event) : s.hear p c event = s := by
  cases event with
  | bytes data => exact if_pos finished
  | ended => exact if_pos finished
  | broken fault => exact if_pos finished
  | handshake succeeded => rfl

/-- What reaches the client within a span of time, of events each of which comes so long after the one
before. -/
def heardBy (span : Nat) : List (Nat × Event) → List Event
  | [] => []
  | (delay, event) :: timed => if delay ≤ span then event :: heardBy (span - delay) timed else []

namespace Connection

variable {p : Scram.Primitives} {c : Connection}

theorem outcome?_eq_none_iff {session : Session} (talks : c.step = .talking session) :
    c.outcome? = none ↔ session.isOver = false := by
  rw [outcome?, talks, Session.isOver, Exchange.isOver]
  dsimp only
  cases session.exchange.stage <;> simp

theorem receive_over {result : Except Fault Unit} (ended : c.outcome? = some result) (event : Event) :
    c.receive p event = c := by
  cases step : c.step with
  | refused fault =>
    unfold receive
    rw [step]
  | talking session =>
    have finished : session.isOver = true := by
      rw [← Bool.not_eq_false, ← outcome?_eq_none_iff step, ended]
      exact Option.some_ne_none result
    rw [receive_talking p step, Session.hear_over finished]
    exact proceed_self step
  | _ =>
    rw [outcome?, step] at ended
    cases ended

theorem run_over {result : Except Fault Unit} (ended : c.outcome? = some result)
    (events : List Event) : c.run p events = c := by
  induction events with
  | nil => rfl
  | cons event events ih =>
    change (c.receive p event).run p events = c
    rw [receive_over ended]
    exact ih

/-- A connection goes on beyond a moment if and only if it is not at its end with all that was heard by
then. -/
theorem course_beyond_iff {span : Nat} {timed : List (Nat × Event)} :
    (c.course p timed).1.Beyond span ↔ (c.run p (heardBy span timed)).outcome? = none := by
  -- A connection that is at its end ends now, whatever else would have come.
  induction timed generalizing c span with
  | nil =>
    unfold course
    cases ended : c.outcome? with
    | none =>
      exact ⟨fun _ => ended, fun _ => Course.beyond_never⟩
    | some result =>
      have same : (c.run p (heardBy span [])).outcome? = some result := ended
      rw [same, Course.beyond_ends_iff]
      simp
  | cons first timed ih =>
    obtain ⟨delay, event⟩ := first
    unfold course
    cases ended : c.outcome? with
    | none =>
      dsimp only
      rw [heardBy]
      split
      · rename_i begun
        rw [Course.beyond_later_iff begun, ih]
        rfl
      · rename_i late
        exact ⟨fun _ => ended, fun _ => Course.beyond_later (Nat.lt_of_not_le late) _⟩
    | some result =>
      rw [run_over ended, ended, Course.beyond_ends_iff]
      simp

end Connection

section

variable (s : Settings) (around : Surroundings) (r : DriverRequest) {limit : Nat}

/-- The connection of a request, so long after it was dialled, with a server that says `timed`. -/
def connectionAfter (tls : Option Tls.Settings) (span : Nat) (timed : List (Nat × Event)) :
    Connection :=
  (Connection.start (credentialsFor s around r) r.serverName tls).run around.primitives
    (heardBy span timed)

/-- The peer keeps the client waiting until its time is over, at one of these stages. -/
inductive Stalls (limit : Nat) (tls : Option Tls.Settings) : Peer → Prop where
  | dialling {peer : Peer} (beyond : peer.Beyond limit) : Stalls limit tls peer
  | asking {before : Nat} {timed : List (Nat × Event)} {settings : Tls.Settings}
      (dialled : before ≤ limit)
      (waits : (connectionAfter s around r tls (limit - before) timed).step = .asking settings) :
      Stalls limit tls (.ends before (.ok timed))
  | handshaking {before : Nat} {timed : List (Nat × Event)} {settings : Tls.Settings} {name : String}
      (dialled : before ≤ limit)
      (waits : (connectionAfter s around r tls (limit - before) timed).step =
        .handshaking settings name) :
      Stalls limit tls (.ends before (.ok timed))
  | talking {before : Nat} {timed : List (Nat × Event)} {session : Session}
      (dialled : before ≤ limit)
      (waits : (connectionAfter s around r tls (limit - before) timed).step = .talking session)
      (unfinished : session.isOver = false) :
      Stalls limit tls (.ends before (.ok timed))

variable {s around r} {tls : Option Tls.Settings} {peer : Peer}
  (ready : prepare s around r = .ok tls) (timed : r.timeout = some limit)
include ready timed

/-- Dialling that takes too long is a failure of the stream, at the very limit. -/
theorem connect_undialled (beyond : peer.Beyond limit) :
    (connect s around r peer).course = .ends limit (.error (.io ⟨.timedOut, none⟩)) := by
  have given : dialled r peer = .ends limit (.error ⟨.timedOut, none⟩) := by
    rw [dialled, timed]
    dsimp only
    rw [Course.within, beyond.endsBy]
    rfl
  rw [connect, ready]
  dsimp only
  rw [given]

/-- A login that is not at its end by the limit goes on beyond it. -/
theorem connect_unfinished {before : Nat} {words : List (Nat × Event)} (reached : before ≤ limit)
    (waits : (connectionAfter s around r tls (limit - before) words).outcome? = none) :
    (connect s around r (.ends before (.ok words))).course.Beyond limit := by
  have given : dialled r (.ends before (.ok words)) = .ends before (.ok words) := by
    rw [dialled, timed]
    dsimp only
    rw [Course.within, Course.endsBy, decide_eq_true reached]
    rfl
  have waiting := Connection.course_beyond_iff.mpr waits
  rw [connect, ready]
  dsimp only
  rw [given]
  exact (Course.beyond_later_iff reached).mpr (waiting.map _)

/-- A client is kept waiting in dialling, which then fails at the limit, or on a connection, which then goes
on beyond it. -/
theorem Stalls.course (h : Stalls s around r limit tls peer) :
    (peer.endsBy limit = false ∧
        (connect s around r peer).course = .ends limit (.error (.io ⟨.timedOut, none⟩))) ∨
      peer.endsBy limit = true ∧ (connect s around r peer).course.Beyond limit := by
  cases h with
  | dialling beyond => exact .inl ⟨beyond.endsBy, connect_undialled ready timed beyond⟩
  | asking reached waits =>
    refine .inr ⟨decide_eq_true reached, connect_unfinished ready timed reached ?_⟩
    rw [Connection.outcome?, waits]
  | handshaking reached waits =>
    refine .inr ⟨decide_eq_true reached, connect_unfinished ready timed reached ?_⟩
    rw [Connection.outcome?, waits]
  | talking reached waits unfinished =>
    exact .inr ⟨decide_eq_true reached, connect_unfinished ready timed reached
      ((Connection.outcome?_eq_none_iff waits).mpr unfinished)⟩

end

/-- A request without hops whose peer keeps it waiting fails when its time is over, in the name of its
target. It is a timeout if and only if the peer was dialled by then: dialling that takes too long is a
failure of the stream. -/
theorem stalled_timeout_iff {σ κ : Type} (ls : Settings) (around : Surroundings)
    (peers : σ → DriverRequest → Peer) (next : σ → Attempted → σ) (name : σ → Opened → κ)
    (leave : σ → κ → σ) (s : Negotiation.Settings) (mode : SslMode) {options : Options}
    {resolved : Resolved} {limit : Nat} (hr : options.resolve = .ok resolved)
    (limited : options.timeout = some limit) (unproxied : options.proxy = none)
    (unforwarded : options.ssh = none) {listen : Except IoFault UInt16}
    {start opened : Negotiation.World σ κ} {route : Negotiation.Route} {port : Option UInt16}
    (hp : Negotiation.prepare listen resolved start = (.ok (route, port), opened))
    (w : Negotiation.World σ κ) {tls : Option Tls.Settings}
    (ready : prepare ls around (route.request s mode) = .ok tls)
    (stalls : Stalls ls around (route.request s mode) limit tls
      (peers w.driver (route.request s mode))) :
    let dialled := (peers w.driver (route.request s mode)).endsBy limit
    let d := driver ls around peers next name leave
    ∃ fault, (Negotiation.attempt d s route mode w).1 = .ends limit (.error fault) ∧
      (fault.isTimeout = true ↔ dialled = true) ∧
      fault = if dialled then .timedOut resolved.sanitizedUri
        else .databaseConnect "I/O error: timed out" resolved.sanitizedUri := by
  intro dialled d
  obtain ⟨fields, uri, h⟩ := Options.resolve_eq_ok_iff.mp hr
  obtain ⟨named, tunnelled, timeout⟩ := Negotiation.prepare_route hp
  have direct : route.tunnelled = false := by
    rw [tunnelled, h.needsTunnel, unproxied, unforwarded]
    rfl
  have timed : route.target.timeout = some limit := by
    rw [timeout, ← limited, h.kept]
  have came := Negotiation.attempt_direct d s direct mode w
  rw [timed, named] at came
  have own : (d.attempt w.driver (route.request s mode)).1.course =
      (connect ls around (route.request s mode) (peers w.driver (route.request s mode))).course.map
        fun result => result.map (name w.driver) := rfl
  rcases stalls.course ready timed with ⟨undialled, failed⟩ | ⟨reached, waits⟩
  · have ended : (d.attempt w.driver (route.request s mode)).1.course =
        .ends limit (.error (.io ⟨.timedOut, none⟩)) := by
      rw [own, failed]
      rfl
    rw [ended, Negotiation.limited_timely (Nat.le_refl limit)] at came
    refine ⟨_, came, ?_⟩
    rw [show dialled = false from undialled]
    refine ⟨⟨?_, ?_⟩, rfl⟩
    · intro timeout
      cases timeout
    · intro reached
      cases reached
  · have late := waits.map fun result => result.map (name w.driver)
    rw [← own] at late
    rw [Negotiation.limited_late late.endsBy] at came
    refine ⟨_, came, ?_⟩
    rw [show dialled = true from reached]
    exact ⟨⟨fun _ => rfl, fun _ => rfl⟩, rfl⟩

def plainSurroundings : Surroundings where
  primitives := .sha256
  files _ := .error .missingFile
  parsable _ := true
  systemUser := "app"
  nonce := "fyko"

def hasty : Options where
  target := .fields
    { dialect := some .postgres, host := some "db.internal", password := some "secret" }
  sslMode := some .disabled
  timeout := some 50

def offer : List UInt8 :=
  [82, 0, 0, 0, 23, 0, 0, 0, 10] ++ Text.bytes "SCRAM-SHA-256" ++ [0, 0]

theorem Session.isOver_of_proving {s : Session} {client : Scram.Client}
    (proves : s.exchange.stage = .proving client) : s.isOver = false := by
  unfold isOver Exchange.isOver
  rw [proves]

theorem feed_offer (p : Scram.Primitives) {c : Credentials} {password : String}
    (given : c.password = some password) :
    ((Session.start c).feed p c offer).exchange.stage = .proving ⟨c.user, password, c.nonce⟩ := by
  let s : Session := { Session.start c with buffer := offer }
  let reply : Wire.Reply := .auth (.sasl [Scram.mechanism])
  have taken : Wire.intake s.buffer = .taken (.ok reply) [] := by cbv
  have unfinished : ¬ s.isOver = true := by
    intro finished
    cases finished
  have heard : (Session.start c).feed p c offer =
      ({ s with buffer := [] }.take (s.exchange.receive p c reply)).settle p c :=
    Session.settle_reply unfinished taken
  have answered : s.exchange.receive p c reply = s.exchange.answerOffer c [Scram.mechanism] := rfl
  have listed : ¬ Scram.mechanism ∉ [Scram.mechanism] := by decide
  rw [heard, answered, Exchange.answerOffer, if_neg listed, given, Session.settle_starved]
  · rfl
  · intro finished
    cases finished
  · rfl

theorem stalled_timeout_proving :
    ∃ resolved, hasty.resolve = .ok resolved ∧
      let route : Negotiation.Route := ⟨resolved, false, resolved.sanitizedUri⟩
      let request := route.request {} .disabled
      let peer : Peer := .ends 10 (.ok [(5, .bytes offer)])
      let d : Negotiation.Driver Nat Opened := driver {} plainSurroundings (fun _ _ => peer)
        (fun n _ => n + 1) (fun _ opened => opened) fun n _ => n
      prepare {} plainSurroundings request = .ok none ∧
      Stalls {} plainSurroundings request 50 none peer ∧
      ∃ fault, (Negotiation.attempt d {} route .disabled ⟨0, []⟩).1 = .ends 50 (.error fault) ∧
        fault.isTimeout = true := by
  refine ⟨_, rfl, ?_⟩
  intro route request peer d
  have ready : prepare {} plainSurroundings request = .ok none := rfl
  have waits := feed_offer .sha256 (c := credentialsFor {} plainSurroundings request) rfl
  have stalls : Stalls {} plainSurroundings request 50 none peer := by
    refine .talking (by decide) rfl ?_
    exact Session.isOver_of_proving waits
  let w : Negotiation.World Nat Opened := ⟨0, []⟩
  have direct : Negotiation.prepare (.error .unreachable) route.target w = (.ok (route, none), w) := rfl
  obtain ⟨fault, failed, timeout, -⟩ := stalled_timeout_iff {} plainSurroundings (fun _ _ => peer)
    (fun n _ => n + 1) (fun _ opened => opened) (fun n _ => n) {} .disabled
    (show hasty.resolve = .ok route.target from rfl) rfl rfl rfl direct w ready stalls
  exact ⟨ready, stalls, fault, failed, timeout.mpr rfl⟩

/-- A server that cannot even be dialled in time is not reported as a timeout. -/
theorem undialled_no_timeout :
    ∃ resolved, hasty.resolve = .ok resolved ∧
      let route : Negotiation.Route := ⟨resolved, false, resolved.sanitizedUri⟩
      let d : Negotiation.Driver Nat Opened := driver {} plainSurroundings (fun _ _ => .never)
        (fun n _ => n + 1) (fun _ opened => opened) fun n _ => n
      Stalls {} plainSurroundings (route.request {} .disabled) 50 none .never ∧
      ∃ fault, (Negotiation.attempt d {} route .disabled ⟨0, []⟩).1 = .ends 50 (.error fault) ∧
        fault.text = "I/O error: timed out (postgres://db.internal:5432/)" ∧
        fault.isTimeout = false := by
  refine ⟨_, rfl, ?_⟩
  intro route d
  exact ⟨.dialling Course.beyond_never, _, rfl, by decide, rfl⟩

end Login
end Passage
