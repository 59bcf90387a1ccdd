import Passage.Proofs.Entry.FirstFailure
import Passage.Proofs.Entry.Generations
import Passage.Proofs.Negotiation.Surfacing

namespace Passage

theorem Text.head?_append {start : String} {first : Char} (h : start.toList.head? = some first)
    (rest : String) : (start ++ rest).toList.head? = some first := by
  rw [String.toList_append, List.head?_append, h, Option.some_or]

namespace Fault

/-- No message that begins in another way is that of a timeout. -/
theorem isTimeout_append (start : String) {first : Char} (h : start.toList.head? = some first)
    (other : first ≠ 'c') (rest uri : String) : (databaseConnect (start ++ rest) uri).isTimeout = false := by
  apply decide_eq_false
  intro timeout
  have same : timeoutMessage.toList.head? = some 'c' := by decide
  rw [← timeout, Text.head?_append h rest] at same
  exact other (Option.some.inj same)

/-- Only what is a timeout already is reported as one. -/
theorem isTimeout_classify (uri : String) (fault : Fault) :
    (fault.classify uri).isTimeout = fault.isTimeout := by
  cases fault with
  | authentication reason =>
    exact isTimeout_append "authentication failed: " rfl (by decide : 'a' ≠ 'c') reason uri
  | protocol reason => exact isTimeout_append "protocol error: " rfl (by decide : 'p' ≠ 'c') reason uri
  | tls reason => exact isTimeout_append "TLS error: " rfl (by decide : 'T' ≠ 'c') reason uri
  | invalidState expected actual =>
    change (databaseConnect ("invalid state: expected " ++ expected ++ ", got " ++ actual) uri).isTimeout = _
    rw [String.append_assoc, String.append_assoc]
    exact isTimeout_append "invalid state: expected " rfl (by decide : 'i' ≠ 'c') _ uri
  | io fault => exact isTimeout_append "I/O error: " rfl (by decide : 'I' ≠ 'c') fault.text uri
  | _ => rfl

/-- What explains a timeout is the failure of a hop, or nothing does. -/
theorem rootCause_timedOut (uri : String) {tunnel : Option Fault}
    (hops : ∀ fault, tunnel = some fault → fault.isTunnel = true) :
    (timedOut uri).rootCause uri tunnel = (tunnel.map (·.withUri uri)).getD (.timedOut uri) := by
  cases tunnel with
  | none => rfl
  | some fault => exact if_pos (hops fault rfl)

theorem isTimeout_rootCause {driver : Fault} {uri : String} {tunnel : Option Fault}
    (h : (driver.rootCause uri tunnel).isTimeout = true) : driver.isTimeout = true := by
  rcases rootCause_cases uri driver tunnel with same | ⟨fault, hop, same⟩
  · rwa [same, isTimeout_classify] at h
  · rw [same] at h
    cases fault with
    | databaseConnect message old => cases hop
    | _ => cases h

end Fault

namespace Course

variable {α β : Type}

def Beyond (limit : Nat) (course : Course α) : Prop :=
  ∀ after outcome, course = .ends after outcome → limit < after

theorem Beyond.endsBy {limit : Nat} {course : Course α} (beyond : course.Beyond limit) :
    course.endsBy limit = false := by
  cases course with
  | never => rfl
  | ends after outcome => exact decide_eq_false (Nat.not_le_of_lt (beyond after outcome rfl))

theorem ends_or_beyond (limit : Nat) (course : Course α) :
    (∃ after outcome, course = .ends after outcome ∧ after ≤ limit) ∨ course.Beyond limit := by
  cases course with
  | never =>
    refine .inr ?_
    intro after outcome h
    cases h
  | ends after outcome =>
    rcases Nat.lt_or_ge limit after with late | timely
    · refine .inr ?_
      intro other result h
      cases h
      exact late
    · exact .inl ⟨after, outcome, rfl, timely⟩

theorem ends_of_outcome? {course : Course α} {outcome : α} (h : course.outcome? = some outcome) :
    ∃ after, course = .ends after outcome := by
  cases course with
  | never => cases h
  | ends after result =>
    cases h
    exact ⟨after, rfl⟩

theorem map_eq_ends {f : α → β} {course : Course α} {after : Nat} {outcome : β}
    (h : course.map f = .ends after outcome) : ∃ a, course = .ends after a ∧ f a = outcome := by
  cases course with
  | never => cases h
  | ends after a =>
    cases h
    exact ⟨a, rfl, rfl⟩

end Course

namespace Negotiation

open Listener

variable {σ κ : Type}

theorem limited_timely {limit after : Nat} (timely : after ≤ limit) (uri : String)
    (result : Except Fault κ) : limited (some limit) uri (.ends after result) = .ends after result :=
  if_pos (decide_eq_true timely)

theorem World.ext {w w' : World σ κ} (driver : w.driver = w'.driver)
    (journal : w.journal = w'.journal) : w = w' := by
  cases w
  cases w'
  cases driver
  cases journal
  rfl

def Visit.begun (v : Visit κ) (t : Transit) : Transit :=
  (t.run (v.before.map .meanwhile)).step .begin

def Visit.due (v : Visit κ) (t : Transit) : Transit :=
  (v.begun t).run (v.during.map .meanwhile)

/-- What is reported first while the attempt is under way. Without a tunnel there is no entry, and nobody to
report anything. -/
def Visit.firstReport (v : Visit κ) (tunnelled : Bool) (limit : Option Nat) (t : Transit) :
    Option Fault :=
  if tunnelled then ((v.begun t).reports (v.inside limit)).head? else none

/-- The same surroundings, but the driver's work takes another course. -/
def Surroundings.recast (d : Surroundings σ κ) (course : Course (Except Fault κ)) :
    Surroundings σ κ where
  attempt state request :=
    let (visit, state) := d.attempt state request
    ({ visit with course }, state)
  close := d.close

/-- An attempt was given up at its limit, and is reported to have failed with `fault`. -/
structure GivenUp (d : Surroundings σ κ) (s : Settings) (r : Route) (mode : SslMode)
    (w : World (σ × Transit) κ) (limit : Nat) (fault : Fault) : Prop where
  course : (attempt d.driver s r mode w).1 = .ends limit (.error fault)
  /-- The sessions accepted by then have been told to end. -/
  cancelled : ∀ (i : Nat) (x : Session),
    ((d.attempt w.driver.1 (r.request s mode)).1.due w.driver.2).entry.sessions[i]? = some x →
      let entry := (attempt d.driver s r mode w).2.driver.2.entry
      ∃ x' : Session, entry.sessions[i]? = some x' ∧ entry.isCancelled x' = true
  dropped : ∃ acts, (attempt d.driver s r mode w).2.journal = w.journal ++ acts ∧
    (Act.dropped ∈ acts ↔ r.tunnelled = true)
  /-- What the driver's work would have come to later does not matter. -/
  abandoned : ∀ course : Course (Except Fault κ), course.Beyond limit →
    attempt (d.recast course).driver s r mode w = attempt d.driver s r mode w

theorem Visit.late_some {v : Visit κ} {limit : Nat} (beyond : v.course.endsBy limit = false) :
    v.late (some limit) = true := by
  rw [Visit.late, Option.any_some, beyond]
  rfl

/-- Of a driver that is given up, only what is on record at the entry and the state that it is left in can be
seen. -/
theorem attempt_late_congr {d d' : Driver σ κ} (s : Settings) (r : Route) (mode : SslMode)
    (w : World σ κ) {limit : Nat} (timed : r.target.timeout = some limit)
    (late : (d.attempt w.driver (r.request s mode)).1.course.endsBy limit = false)
    (late' : (d'.attempt w.driver (r.request s mode)).1.course.endsBy limit = false)
    (tunnel : (d.attempt w.driver (r.request s mode)).1.tunnel =
      (d'.attempt w.driver (r.request s mode)).1.tunnel)
    (state : (d.attempt w.driver (r.request s mode)).2 =
      (d'.attempt w.driver (r.request s mode)).2) :
    attempt d s r mode w = attempt d' s r mode w := by
  have course : (attempt d s r mode w).1 = (attempt d' s r mode w).1 := by
    rw [attempt_course, attempt_course, tunnel, timed, limited_late late, limited_late late']
  have driver : (attempt d s r mode w).2.driver = (attempt d' s r mode w).2.driver := by
    rw [attempt_driver, attempt_driver, state]
  have journal : (attempt d s r mode w).2.journal = (attempt d' s r mode w).2.journal := by
    rw [attempt_journal, attempt_journal, course, attemptActs, attemptActs, tunnel, timed,
      Option.any_some, Option.any_some, late, late']
  exact Prod.ext course (World.ext driver journal)

section

variable (d : Surroundings σ κ) (s : Settings) (r : Route) (mode : SslMode)
  (w : World (σ × Transit) κ)

/-- An attempt comes to what the driver comes to within the limit, but a failure is explained by what the
sessions of the entry reported first. -/
theorem attempt_explained :
    let visit := (d.attempt w.driver.1 (r.request s mode)).1
    (attempt d.driver s r mode w).1 =
      (limited r.target.timeout r.uri visit.course).map fun result =>
        result.mapError
          (·.rootCause r.uri (visit.firstReport r.tunnelled r.target.timeout w.driver.2)) := by
  intro visit
  have recorded : (w.driver.2.run (visit.moves r.target.timeout)).entry.fault? =
      ((visit.begun w.driver.2).reports (visit.inside r.target.timeout)).head? := by
    rw [Visit.moves, Transit.run_append, Transit.run_cons,
      Transit.fault?_run _ (visit.within_inside r.target.timeout)]
    rfl
  rw [Visit.firstReport, ← recorded]
  exact attempt_course d.driver s r mode w

theorem firstReport_isTunnel {v : Visit κ} {tunnelled : Bool} {limit : Option Nat} {t : Transit}
    (reached : t.Reached) {fault : Fault} (h : v.firstReport tunnelled limit t = some fault) :
    fault.isTunnel = true := by
  have begun : (v.begun t).Reached := (reached.run _).run [.begin]
  unfold Visit.firstReport at h
  split at h
  · exact Transit.reports_isTunnel begun.faithful.sound (v.within_inside limit) fault
      (List.mem_of_head? h)
  · cases h

variable {limit : Nat} (timed : r.target.timeout = some limit)
  (beyond : (d.attempt w.driver.1 (r.request s mode)).1.course.endsBy limit = false)
include timed beyond

theorem attempt_cancelled (reached : w.driver.2.Reached) (i : Nat) (x : Session)
    (hx : ((d.attempt w.driver.1 (r.request s mode)).1.due w.driver.2).entry.sessions[i]? = some x) :
    let entry := (attempt d.driver s r mode w).2.driver.2.entry
    ∃ x' : Session, entry.sessions[i]? = some x' ∧ entry.isCancelled x' = true := by
  intro entry
  let visit := (d.attempt w.driver.1 (r.request s mode)).1
  let due := visit.due w.driver.2
  have late : visit.late r.target.timeout = true := timed ▸ Visit.late_some beyond
  have busy : due.busy = true :=
    ((visit.begun w.driver.2).run_within (Visit.within_meanwhile visit.during)).1
  have dated : due.entry.Dated := (((reached.run _).run [.begin]).run _).dated
  have givenUp : (due.step .giveUp).entry = due.entry.step .dropSessions := by
    rw [Transit.step, if_pos busy]
  have ended : (attempt d.driver s r mode w).2.driver.2 =
      (due.step .giveUp).run (visit.after.map .meanwhile ++ visit.last r.target.timeout) := by
    rw [attempt_transit]
    simp only [Visit.moves, Visit.inside, Transit.run_append, Transit.run_cons]
    rw [if_pos late]
    rfl
  -- From there on the entry only grows older, which takes nothing back.
  have ages := (due.step .giveUp).run_ages (visit.after.map .meanwhile ++ visit.last r.target.timeout)
  rw [← ended, givenUp] at ages
  exact ages.cancelled hx (dated.dropped (List.mem_of_getElem? hx))

theorem attempt_dropped :
    ∃ acts, (attempt d.driver s r mode w).2.journal = w.journal ++ acts ∧
      (Act.dropped ∈ acts ↔ r.tunnelled = true) := by
  refine ⟨_, attempt_journal d.driver s r mode w, ?_⟩
  have late : (r.target.timeout.any fun limit =>
      !(d.driver.attempt w.driver (r.request s mode)).1.course.endsBy limit) = true :=
    timed ▸ Visit.late_some beyond
  rw [dropped_mem_attemptActs_iff, late]
  simp

theorem attempt_abandoned {course : Course (Except Fault κ)} (other : course.endsBy limit = false) :
    attempt (d.recast course).driver s r mode w = attempt d.driver s r mode w := by
  let visit := (d.attempt w.driver.1 (r.request s mode)).1
  let recast : Visit κ := { visit with course }
  have late : visit.late r.target.timeout = true := timed ▸ Visit.late_some beyond
  have late' : recast.late r.target.timeout = true := timed ▸ Visit.late_some other
  have moves : recast.moves r.target.timeout = visit.moves r.target.timeout := by
    rw [Visit.moves, Visit.inside, if_pos late', Visit.moves, Visit.inside, if_pos late]
  have last : recast.last r.target.timeout = visit.last r.target.timeout := by
    rw [Visit.last, if_pos late', Visit.last, if_pos late]
  apply attempt_late_congr s r mode w timed other beyond
  · change (w.driver.2.run (recast.moves r.target.timeout)).entry.fault? = _
    rw [moves]
    rfl
  · change (_, (w.driver.2.run (recast.moves r.target.timeout)).run
      (recast.last r.target.timeout)) = _
    rw [moves, last]
    rfl

end

theorem prepare_route {listen : Except IoFault UInt16} {resolved : Resolved} {w opened : World σ κ}
    {route : Route} {port : Option UInt16}
    (hp : prepare listen resolved w = (.ok (route, port), opened)) :
    route.uri = resolved.sanitizedUri ∧ route.tunnelled = resolved.needsTunnel ∧
      route.target.timeout = resolved.timeout := by
  rcases prepare_eq listen resolved w with
    ⟨fault, -, -, failed⟩ | ⟨entry, tunnel, -, prepared⟩ | ⟨direct, prepared⟩
  · cases failed.symm.trans hp
  · cases prepared.symm.trans hp
    exact ⟨rfl, tunnel.symm, rfl⟩
  · cases prepared.symm.trans hp
    exact ⟨rfl, direct.symm, rfl⟩

/-- An attempt with a time limit ends by then. A driver that is done by then decides; one that is not is
given up, and the attempt fails with what was reported first at the entry meanwhile, or for want of time.
Without a limit it is always the driver that decides, and no timeout is reported but its own. -/
theorem attempt_deadline (d : Surroundings σ κ) (s : Settings) (mode : SslMode)
    {listen : Except IoFault UInt16} {resolved : Resolved} {start opened : World (σ × Transit) κ}
    {route : Route} {port : Option UInt16}
    (hp : prepare listen resolved start = (.ok (route, port), opened))
    {w : World (σ × Transit) κ} {history : List Transit.Move}
    (known : w.driver.2 = Transit.run {} history) :
    let visit := (d.attempt w.driver.1 (route.request s mode)).1
    let uri := resolved.sanitizedUri
    let first := visit.firstReport resolved.needsTunnel resolved.timeout w.driver.2
    let course := (attempt d.driver s route mode w).1
    let decided := visit.course.map fun result => result.mapError (·.rootCause uri first)
    (∀ fault, first = some fault → fault.isTunnel = true) ∧
      (∀ limit, resolved.timeout = some limit →
        (∃ after result, course = .ends after result ∧ after ≤ limit) ∧
          (∀ after result, visit.course = .ends after result → after ≤ limit →
            course = decided) ∧
          (visit.course.Beyond limit → GivenUp d s route mode w limit
            ((first.map (·.withUri uri)).getD (.timedOut uri)))) ∧
      (resolved.timeout = none →
        course = decided ∧
          ∀ after fault, course = .ends after (.error fault) → fault.isTimeout = true →
            ∃ own, visit.course = .ends after (.error own) ∧ own.isTimeout = true) := by
  obtain ⟨target, tunnelled, timeout⟩ := prepare_route hp
  rw [← target, ← tunnelled, ← timeout]
  intro visit uri first course decided
  have reached : w.driver.2.Reached := ⟨history, known⟩
  have hops : ∀ fault, first = some fault → fault.isTunnel = true :=
    fun _ => firstReport_isTunnel reached
  have explained : course = (limited route.target.timeout uri visit.course).map fun result =>
      result.mapError (·.rootCause uri first) := attempt_explained d s route mode w
  refine ⟨hops, ?_, ?_⟩
  · intro limit timed
    have decides (after : Nat) (result : Except Fault κ) (ended : visit.course = .ends after result)
        (timely : after ≤ limit) : course = decided := by
      rw [timed, ended, limited_timely timely, ← ended] at explained
      exact explained
    have givenUp (beyond : visit.course.Beyond limit) :
        GivenUp d s route mode w limit ((first.map (·.withUri uri)).getD (.timedOut uri)) := by
      refine ⟨?_, attempt_cancelled d s route mode w timed beyond.endsBy reached,
        attempt_dropped d s route mode w timed beyond.endsBy, ?_⟩
      · rw [← Fault.rootCause_timedOut uri hops]
        rw [timed, limited_late beyond.endsBy] at explained
        exact explained
      · intro other late
        exact attempt_abandoned d s route mode w timed beyond.endsBy late.endsBy
    refine ⟨?_, decides, givenUp⟩
    rcases visit.course.ends_or_beyond limit with ⟨after, result, ended, timely⟩ | beyond
    · refine ⟨after, result.mapError (·.rootCause uri first), ?_, timely⟩
      rw [decides after result ended timely]
      simp only [decided, ended, Course.map]
    · exact ⟨limit, _, (givenUp beyond).course, Nat.le_refl _⟩
  · intro unlimited
    rw [unlimited] at explained
    refine ⟨explained, ?_⟩
    intro after fault failed timedOut
    obtain ⟨result, ended, reported⟩ := Course.map_eq_ends (explained.symm.trans failed)
    cases result with
    | ok connection => cases reported
    | error own =>
      cases reported
      exact ⟨own, ended, Fault.isTimeout_rootCause timedOut⟩

/-- A proxy that turns one session down and leaves the other waiting. The driver waits for ever. -/
def Surroundings.stalled : Surroundings Nat Nat where
  attempt n _ :=
    ({ course := .never
       during := [.accept, .accept, .chainDown 0 (.proxyConnect "proxy:1080" "refused" ""), .record 0] },
      n + 1)
  close n _ := (.ok (), n)

theorem attempt_deadline_stalled :
    ∃ resolved, Options.resolve { throughProxy with timeout := some 50 } = .ok resolved ∧
      let route : Route := ⟨resolved.moveTo loopback 40000, true, resolved.sanitizedUri⟩
      let a := attempt Surroundings.stalled.driver {} route .required ⟨(0, {}), []⟩
      let entry := a.2.driver.2.entry
      a.1 = .ends 50
        (.error (.proxyConnect "proxy:1080" "refused" "postgres://db.internal:5000/")) ∧
      ∃ x, entry.sessions[1]? = some x ∧ entry.isCancelled x = true := by
  obtain ⟨resolved, hr, tunnel, timeout, uri⟩ : ∃ resolved,
      Options.resolve { throughProxy with timeout := some 50 } = .ok resolved ∧
      resolved.needsTunnel = true ∧ resolved.timeout = some 50 ∧
      resolved.sanitizedUri = "postgres://db.internal:5000/" := ⟨_, rfl, rfl, rfl, rfl⟩
  refine ⟨resolved, hr, ?_⟩
  intro route a entry
  let w : World (Nat × Transit) Nat := ⟨(0, {}), []⟩
  have hp : prepare (.ok 40000) resolved w = (.ok (route, some 40000), w.note [.listened 40000]) := by
    rw [prepare, if_pos tunnel]
  have known : w.driver.2 = Transit.run {} [] := rfl
  obtain ⟨-, timed, -⟩ := attempt_deadline Surroundings.stalled {} .required hp known
  obtain ⟨-, -, late⟩ := timed 50 timeout
  rw [tunnel, timeout, uri] at late
  have waits : Course.Beyond 50 (.never : Course (Except Fault Nat)) := by
    intro after result h
    cases h
  have givenUp := late waits
  exact ⟨givenUp.course, givenUp.cancelled 1 _ rfl⟩

end Negotiation
end Passage
