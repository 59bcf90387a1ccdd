import Passage.Negotiation.Transit
import Passage.Proofs.Negotiation.Recording

namespace Passage.Negotiation

variable {σ κ : Type}

namespace Transit

/-- Whether a move neither begins nor ends an attempt. -/
def Move.isWithin : Move → Bool
  | .begin | .succeed | .fail _ => false
  | _ => true

theorem step_within (t : Transit) {m : Move} (within : m.isWithin = true) :
    (t.step m).busy = t.busy ∧ (t.step m).endings = t.endings := by
  cases m with
  | begin => cases within
  | succeed => cases within
  | fail driver => cases within
  | stop => exact ⟨rfl, rfl⟩
  | giveUp =>
    simp only [step]
    split <;> exact ⟨rfl, rfl⟩
  | meanwhile event =>
    simp only [step]
    split <;> exact ⟨rfl, rfl⟩

theorem run_within (t : Transit) {moves : List Move} (within : ∀ m ∈ moves, m.isWithin = true) :
    (t.run moves).busy = t.busy ∧ (t.run moves).endings = t.endings := by
  induction moves generalizing t with
  | nil => exact ⟨rfl, rfl⟩
  | cons m rest ih =>
    obtain ⟨busy, endings⟩ := step_within t (within m List.mem_cons_self)
    obtain ⟨busy', endings'⟩ := ih (t.step m) fun m' hm => within m' (List.mem_cons_of_mem m hm)
    exact ⟨busy'.trans busy, endings'.trans endings⟩

theorem step_fail {t : Transit} (busy : t.busy = true) (driver : Option Fault) :
    (t.step (.fail driver)).endings = t.endings ++ [⟨driver, t.entry⟩] := by
  rw [step, if_pos busy]

end Transit

namespace Visit

variable (v : Visit κ) (limit : Option Nat)

theorem within_meanwhile (events : List Listener.Event) :
    ∀ m ∈ events.map Transit.Move.meanwhile, m.isWithin = true := by
  intro m hm
  obtain ⟨event, -, rfl⟩ := List.mem_map.mp hm
  rfl

theorem within_inside : ∀ m ∈ v.inside limit, m.isWithin = true := by
  intro m hm
  rcases List.mem_append.mp hm with during | hm
  · exact within_meanwhile _ m during
  · rcases List.mem_append.mp hm with late | after
    · split at late
      · rw [List.mem_singleton.mp late]
        rfl
      · cases late
    · exact within_meanwhile _ m after

/-- When an attempt comes to its end it is still under way, and no other attempt has ended. -/
theorem run_moves (t : Transit) :
    (t.run (v.moves limit)).busy = true ∧ (t.run (v.moves limit)).endings = t.endings := by
  obtain ⟨-, before⟩ := t.run_within (within_meanwhile v.before)
  obtain ⟨busy, endings⟩ :=
    ((t.run (v.before.map .meanwhile)).step .begin).run_within (v.within_inside limit)
  rw [moves, Transit.run_append, Transit.run_cons]
  exact ⟨busy, endings.trans before⟩

end Visit

def failed (results : List (Except Fault κ)) : List Fault :=
  results.filterMap fun
    | .error fault => some fault
    | .ok _ => none

/-- The failures that are reported for attempts. -/
def Journal.failures (j : Journal κ) : List Fault :=
  failed (j.answers.map Prod.snd)

theorem Journal.failures_append (a b : Journal κ) :
    failures (a ++ b) = a.failures ++ b.failures := by
  rw [failures, answers_append, List.map_append]
  exact List.filterMap_append

theorem Quiet.failures {acts : Journal κ} (quiet : Quiet acts) : acts.failures = [] := by
  rw [Journal.failures, quiet.answers]
  rfl

theorem Ran.failures {r : Route} {s : Settings} {modes : List SslMode}
    {results : List (SslMode × Except Fault κ)} {acts : Journal κ}
    (ran : Ran r s modes results acts) : acts.failures = failed (results.map Prod.snd) := by
  rw [Journal.failures, ran.answers, List.map_map]
  rfl

/-- What the driver comes to within a limit. -/
def limited (limit : Option Nat) (uri : String) (course : Course (Except Fault κ)) :
    Course (Except Fault κ) :=
  match limit with
  | some limit => course.within limit (.error (.timedOut uri))
  | none => course

/-- An attempt comes to what the driver comes to within the limit, but a failure is explained by what is on
record at the entry. -/
theorem attempt_course (d : Driver σ κ) (s : Settings) (r : Route) (mode : SslMode) (w : World σ κ) :
    let a := (d.attempt w.driver (r.request s mode)).1
    (attempt d s r mode w).1 =
      (limited r.target.timeout r.uri a.course).map fun result =>
        result.mapError fun fault =>
          fault.rootCause r.uri (if r.tunnelled then a.tunnel else none) := by
  intro a
  unfold attempt
  dsimp only [World.note]
  -- The cases are those of the limited course, written out in the attempt.
  split
  · rename_i never
    rw [show limited r.target.timeout r.uri a.course = .never from never]
    rfl
  · rename_i after connection opened
    rw [show limited r.target.timeout r.uri a.course = .ends after (.ok connection) from opened]
    rfl
  · rename_i after fault failed
    rw [show limited r.target.timeout r.uri a.course = .ends after (.error fault) from failed]
    rfl

/-- Where there is no entry, a failure is what the driver makes of it. -/
theorem attempt_direct (d : Driver σ κ) (s : Settings) {r : Route} (direct : r.tunnelled = false)
    (mode : SslMode) (w : World σ κ) :
    (attempt d s r mode w).1 =
      (limited r.target.timeout r.uri (d.attempt w.driver (r.request s mode)).1.course).map
        fun result => result.mapError (·.classify r.uri) := by
  rw [attempt_course, direct]
  rfl

theorem attempt_outcome (d : Driver σ κ) (s : Settings) (r : Route) (mode : SslMode) (w : World σ κ) :
    let a := (d.attempt w.driver (r.request s mode)).1
    (attempt d s r mode w).1.outcome? =
      (limited r.target.timeout r.uri a.course).outcome?.map fun result =>
        result.mapError fun fault =>
          fault.rootCause r.uri (if r.tunnelled then a.tunnel else none) := by
  intro a
  rw [attempt_course, Course.outcome?_map]

/-- What an attempt comes to in its surroundings. -/
inductive Closes (r : Route) (t : Transit) : List Transit.Move → Option (Except Fault κ) → Prop where
  | waits : Closes r t [] none
  | opens (connection : κ) : Closes r t [.succeed] (some (.ok connection))
  | fails (driver : Option Fault) :
      Closes r t [.fail driver]
        (some (.error ((⟨driver, t.entry⟩ : Ending).fault r.uri r.tunnelled)))

theorem limited_late {limit : Nat} {course : Course (Except Fault κ)}
    (beyond : course.endsBy limit = false) (uri : String) :
    limited (some limit) uri course = .ends limit (.error (.timedOut uri)) := by
  rw [limited, Course.within, beyond]
  rfl

theorem Visit.outcome_late {v : Visit κ} {limit : Option Nat} (late : v.late limit = true)
    (uri : String) : (limited limit uri v.course).outcome? = some (.error (.timedOut uri)) := by
  cases limit with
  | none => cases late
  | some limit =>
    have beyond : v.course.endsBy limit = false := by simpa [Visit.late] using late
    rw [limited_late beyond]
    rfl

theorem Visit.limited_timely {v : Visit κ} {limit : Option Nat} (late : ¬ v.late limit = true)
    (uri : String) : limited limit uri v.course = v.course := by
  cases limit with
  | none => rfl
  | some limit =>
    have timely : v.course.endsBy limit = true := by simpa [Visit.late] using late
    rw [limited, Course.within, timely]
    rfl

/-- The failures that are reported are those of the attempts that failed. -/
theorem Closes.endings {r : Route} {t : Transit} {last : List Transit.Move}
    {outcome : Option (Except Fault κ)} (closes : Closes r t last outcome) (busy : t.busy = true) :
    (t.run last).endings.map (·.fault r.uri r.tunnelled) =
      t.endings.map (·.fault r.uri r.tunnelled) ++ failed outcome.toList := by
  cases closes with
  | waits => simp [failed]
  | opens connection => simp [failed, Transit.step]
  | fails driver => simp [failed, t.step_fail busy]

theorem Closes.entry {r : Route} {t : Transit} {last : List Transit.Move}
    {outcome : Option (Except Fault κ)} (closes : Closes r t last outcome) (busy : t.busy = true)
    {e : Ending} (ended : (t.run last).endings = t.endings ++ [e]) : e.entry = t.entry := by
  cases closes with
  | fails driver =>
    rw [Transit.run_cons, Transit.run_nil, t.step_fail busy] at ended
    cases List.append_cancel_left ended
    rfl
  | _ => exact absurd (congrArg List.length ended) (by simp [Transit.step])

section

variable (d : Surroundings σ κ) (s : Settings) (r : Route)

theorem attempt_closes (mode : SslMode) (w : World (σ × Transit) κ) :
    let visit := (d.attempt w.driver.1 (r.request s mode)).1
    let t := w.driver.2.run (visit.moves r.target.timeout)
    Closes r t (visit.last r.target.timeout) (attempt d.driver s r mode w).1.outcome? := by
  intro visit t
  have ended : (attempt d.driver s r mode w).1.outcome? =
      (limited r.target.timeout r.uri visit.course).outcome?.map fun result =>
        result.mapError fun fault =>
          fault.rootCause r.uri (if r.tunnelled then t.entry.fault? else none) :=
    attempt_outcome d.driver s r mode w
  rw [ended, Visit.last]
  by_cases late : visit.late r.target.timeout = true
  · rw [if_pos late, visit.outcome_late late]
    exact .fails none
  · rw [if_neg late, visit.limited_timely late]
    cases visit.course with
    | never => exact .waits
    | ends after result =>
      cases result with
      | ok connection => exact .opens connection
      | error fault => exact .fails (some fault)

/-- An attempt goes on with the history of the entry. -/
theorem attempt_transit (mode : SslMode) (w : World (σ × Transit) κ) :
    let visit := (d.attempt w.driver.1 (r.request s mode)).1
    (attempt d.driver s r mode w).2.driver.2 =
      (w.driver.2.run (visit.moves r.target.timeout)).run (visit.last r.target.timeout) := by
  intro visit
  rw [attempt_driver]
  rfl

theorem endings_kept :
    Kept d.driver s r fun w =>
      w.journal.failures = w.driver.2.endings.map (·.fault r.uri r.tunnelled) where
  note {w acts} quiet h := by
    rw [World.note, Journal.failures_append, quiet.failures, List.append_nil]
    exact h
  attempt {w} mode h := by
    obtain ⟨acts, hj, ran⟩ := attempt_ran d.driver s r mode w
    obtain ⟨busy, before⟩ := Visit.run_moves (d.attempt w.driver.1 (r.request s mode)).1
      r.target.timeout w.driver.2
    rw [hj, Journal.failures_append, h, ran.failures, attempt_transit,
      (attempt_closes d s r mode w).endings busy, before]
    cases (attempt d.driver s r mode w).1.outcome? <;> rfl
  close {w} connection h := by
    change (w.journal ++ [Act.closed connection]).failures = _
    rw [Journal.failures_append, h]
    exact List.append_nil _

theorem transit_kept :
    Kept d.driver s r fun w => ∃ history, w.driver.2 = Transit.run {} history where
  note _ h := h
  attempt {w} mode h := by
    obtain ⟨history, h⟩ := h
    rw [attempt_transit, h, ← Transit.run_append, ← Transit.run_append]
    exact ⟨_, rfl⟩
  close _ h := h

end

section

variable (d : Surroundings σ κ) (s : Settings) (listen : Except IoFault UInt16) (options : Options)
  (state : σ)

/-- Whatever a request does at its entry is a history there. -/
theorem connect_transit :
    ∃ history, (connect d.driver s listen options (state, {})).2.driver.2 =
      Transit.run {} history :=
  Kept.connect listen options (fun _ _ r _ _ => transit_kept d s r) ⟨[], rfl⟩

/-- The failures that a request reports are those of its attempts that failed, in order. -/
theorem connect_failures {resolved : Resolved} (hr : options.resolve = .ok resolved) :
    (connect d.driver s listen options (state, {})).2.journal.failures =
      (connect d.driver s listen options (state, {})).2.driver.2.endings.map
        (·.fault resolved.sanitizedUri resolved.needsTunnel) :=
  Kept.connect (P := fun w : World (σ × Transit) κ => w.journal.failures =
      w.driver.2.endings.map (·.fault resolved.sanitizedUri resolved.needsTunnel)) listen options
    (fun other ho r uri tunnelled => by
      cases hr.symm.trans ho
      rw [← uri, ← tunnelled]
      exact endings_kept d s r)
    rfl

end

end Passage.Negotiation
