import Passage.Hop.Usage
import Passage.Proofs.Hop.Returning

namespace Passage

namespace Shared

variable {α : Type} {s : Shared α} {i : Nat} {r : Run α}

/-- The values that no work holds. -/
def free (s : Shared α) : List Value :=
  s.values.filter (·.holder = none)

/-- What work returned, if it has. -/
def result? (s : Shared α) (run : Nat) : Option (Except Fault α) :=
  match s.runs[run]? with
  | some { status := .returned outcome, .. } => some outcome
  | _ => none

theorem trackMany_values (s : Shared α) (holder : Option Nat) (n : Nat) :
    ∃ new : List Value, (s.trackMany holder n).values = s.values ++ new ∧ new.length = n ∧
      ∀ v ∈ new, v.holder = holder := by
  induction n with
  | zero => exact ⟨[], (List.append_nil _).symm, rfl, by simp⟩
  | succ n ih =>
    obtain ⟨new, values, length, held⟩ := ih
    refine ⟨new ++ [⟨(s.trackMany holder n).tracked, holder⟩], ?_, by simp [length], ?_⟩
    · simp [trackMany, track, values]
    · intro v member
      rcases List.mem_append.mp member with before | last
      · exact held v before
      · rw [List.mem_singleton.mp last]

theorem turn_tracks_values (s : Shared α) (i n : Nat) :
    ∃ new : List Value, (s.turn i { tracks := n }).values = s.values ++ new ∧ new.length = n ∧
      ∀ v ∈ new, v.isWith i = true := by
  obtain ⟨new, values, length, held⟩ := s.trackMany_values (some i) n
  refine ⟨new, ?_, length, fun v member => by simp [Value.isWith, held v member]⟩
  have kept (l : List Value) : l.filter (fun _ => true) = l := List.filter_eq_self.mpr fun _ _ => rfl
  simp [turn, pass, release_eq, values, kept]

theorem turn_drops_values (s : Shared α) (i : Nat) (progress : Option (Except Fault α)) :
    (s.turn i { drops := fun _ => true, progress }).values = s.values.filter fun v => !v.isWith i := by
  simp [turn, pass, release_eq, trackMany]

theorem finish_values_of_empty {outcome : Except Fault α} (empty : ∀ v ∈ s.values, v.isWith i = false) :
    (s.finish i outcome).values = s.values := by
  have same : s.values.filter (fun v => !v.isWith i) = s.values :=
    List.filter_eq_self.mpr fun v member => by simp [empty v member]
  cases outcome with
  | error fault => rw [finish_error_values, same]
  | ok value =>
    have kept : ∀ v ∈ s.values, (if v.isWith i then { v with holder := none } else v) = id v := by
      intro v member
      simp [empty v member]
    change s.values.map _ = s.values
    rw [List.map_congr_left kept, List.map_id]

theorem free_drop (s : Shared α) (v : Value) : (s.drop v).free = s.free.erase v :=
  List.erase_filter.symm

theorem exists_dropped {v : Value} (isFree : v ∈ s.free) :
    ∃ w, s.step (.drop v.number) = s.drop w ∧ w ∈ s.free := by
  obtain ⟨member, holder⟩ := List.mem_filter.mp isFree
  cases found : s.values.find? fun w => w.number = v.number && w.holder = none with
  | none =>
    have missing := List.find?_eq_none.mp found v member
    simp [of_decide_eq_true holder] at missing
  | some w =>
    have fits := List.find?_some found
    simp only [Bool.and_eq_true, decide_eq_true_eq] at fits
    refine ⟨w, by rw [step, found], List.mem_filter.mpr ⟨List.mem_of_find?_eq_some found, by simp [fits.2]⟩⟩

theorem Accounted.not_isWith (accounted : s.Accounted) {v : Value} (member : v ∈ s.values) :
    v.isWith s.runs.length = false := by
  apply Bool.eq_false_iff.mpr
  intro held
  have pending := accounted.holders v member _ (by simpa [Value.isWith] using held)
  simp [isPending] at pending

/-- Work is under way, and holds what was tracked since the hop was as given. -/
structure Holds (old : List Value) (s : Shared α) (i : Nat) (onStop : Fault) : Prop where
  found : s.runs[i]? = some { onStop }
  values : ∃ new : List Value, s.values = old ++ new ∧ ∀ v ∈ new, v.isWith i = true
  apart : ∀ v ∈ old, v.isWith i = false

section

variable {old : List Value} {onStop : Fault} (holds : Holds old s i onStop)
include holds

theorem Holds.filter_eq : s.values.filter (fun v => !v.isWith i) = old := by
  obtain ⟨new, values, held⟩ := holds.values
  have kept : old.filter (fun v => !v.isWith i) = old :=
    List.filter_eq_self.mpr fun v member => by simp [holds.apart v member]
  have gone : new.filter (fun v => !v.isWith i) = [] :=
    List.filter_eq_nil_iff.mpr fun v member => by simp [held v member]
  rw [values, List.filter_append, kept, gone, List.append_nil]

theorem Holds.result?_eq_none : s.result? i = none := by
  simp [result?, holds.found]

/-- Once the hop was stopped, work returns, and all is as if it had never been. -/
theorem Holds.stopped (stopped : s.state.stopped = true) (t : Turn α) :
    (s.poll i t).values = old ∧ (s.poll i t).state = s.state ∧ (s.poll i t).result? i = some (.error onStop) := by
  rw [poll_stopped holds.found rfl stopped]
  refine ⟨?_, finish_state _, ?_⟩
  · rw [finish_error_values, holds.filter_eq]
  · simp [result?, getElem?_finish, holds.found]

theorem Holds.ends (unstopped : s.state.stopped = false) (outcome : Except Fault α) :
    let s' := s.poll i { drops := fun _ => true, progress := some outcome }
    s'.values = old ∧ s'.state = s.state.settle outcome ∧ s'.result? i = some outcome := by
  intro s'
  let worked : Shared α :=
    { s.turn i { drops := fun _ => true, progress := some outcome } with state := s.state.settle outcome }
  have made : s' = worked.finish i outcome := poll_ends holds.found rfl unstopped rfl
  have left : worked.values = old := (s.turn_drops_values i (some outcome)).trans holds.filter_eq
  rw [made]
  refine ⟨?_, finish_state _, ?_⟩
  · rw [finish_values_of_empty fun v member => holds.apart v (left ▸ member), left]
  · have found : worked.runs[i]? = some { onStop } := by
      simpa [worked] using holds.found
    simp [result?, getElem?_finish, found]

end

/-- Work is begun, and tracks values at the first look at it. -/
theorem exists_holds (accounted : s.Accounted) (onStop : Fault) :
    let begun := s.step (.start onStop fun _ => false)
    Holds s.values begun s.runs.length onStop ∧ begun.state = s.state ∧
      (s.state.stopped = false → ∀ n,
        let working := begun.poll s.runs.length { tracks := n }
        Holds s.values working s.runs.length onStop ∧ working.state = s.state ∧
          working.values.length = s.values.length + n ∧ working.free = s.free) := by
  intro begun
  have values : begun.values = s.values := by
    simp [begun, step, pass]
  have found : begun.runs[s.runs.length]? = some { onStop } := by
    simp [begun, step, pass]
  have apart : ∀ v ∈ s.values, v.isWith s.runs.length = false := fun v => accounted.not_isWith
  refine ⟨⟨found, ⟨[], by simp [values], by simp⟩, apart⟩, rfl, fun unstopped n => ?_⟩
  intro working
  have made : working = begun.turn s.runs.length { tracks := n } := poll_waits found rfl unstopped rfl
  obtain ⟨new, grown, length, held⟩ := begun.turn_tracks_values s.runs.length n
  rw [values] at grown
  have others : new.filter (·.holder = none) = [] := by
    refine List.filter_eq_nil_iff.mpr fun v member => ?_
    have holder := held v member
    simp only [Value.isWith, decide_eq_true_eq] at holder
    simp [holder]
  rw [made]
  refine ⟨⟨by rw [turn_runs, found], ⟨new, grown, held⟩, apart⟩, turn_state, ?_, ?_⟩
  · rw [grown, List.length_append, length]
  · rw [free, grown, List.filter_append, others, List.append_nil, free]

end Shared

namespace Usage

open Shared (Event Turn)

/-- What is seen of a hop that one uses at a time is what is seen of one that several use. -/
structure Mirrors (u : Usage) (s : Shared Unit) : Prop where
  state : u.state = s.state
  sockets : (u.sockets : Int) = s.sockets
  values : u.values.length = s.free.length

section

variable (u : Usage) (onStop : Fault) (w : Work) (stopAfter : Option Nat)

theorem work_stopped (stopped : u.state.stopped = true) :
    u.work onStop w stopAfter = (.ran (.ends 0 (.error onStop)), u) := by
  simp [Usage.work, HopState.run, busy, stopped]

variable (unstopped : u.state.stopped = false)
include unstopped

theorem work_interrupted {moment : Nat} (interrupted : stopAfter.filter (w.course.waitsAt ·) = some moment) :
    u.work onStop w stopAfter = (.ran (.ends moment (.error onStop)), { u with state := u.state.stop }) := by
  simp [Usage.work, HopState.run, busy, unstopped, interrupted]

variable (alone : stopAfter.filter (w.course.waitsAt ·) = none)
include alone

theorem work_ends {after : Nat} {outcome : Except Fault Unit} (course : w.course = .ends after outcome) :
    u.work onStop w stopAfter = (.ran w.course, { u with state := u.state.settle outcome }) := by
  simp only [Usage.work, HopState.run, unstopped, alone]
  simp [busy, unstopped, course]

theorem work_never (course : w.course = .never) :
    u.work onStop w stopAfter = (.ran w.course, { u with sockets := u.sockets + w.holds }) := by
  simp only [Usage.work, HopState.run, unstopped, alone]
  simp [busy, unstopped, course]

end

variable {u : Usage} {s s' : Shared Unit}

/-- A hop whose values are as they were is mirrored but for its state. -/
theorem Mirrors.back (mirrors : Mirrors u s) (before : s.Accounted) (after : s'.Accounted)
    (values : s'.values = s.values) {state : HopState} (same : s'.state = state) :
    Mirrors { u with state } s' := by
  refine ⟨same.symm, ?_, ?_⟩
  · change (u.sockets : Int) = s'.sockets
    rw [mirrors.sockets, before.sockets, after.sockets, values]
  · change u.values.length = s'.free.length
    rw [mirrors.values, Shared.free, Shared.free, values]

/-- Running work is to begin it and to look at it until it ends, with or without a stop in between. -/
theorem Mirrors.work (mirrors : Mirrors u s) (accounted : s.Accounted) (onStop : Fault) (w : Work)
    (stopAfter : Option Nat) :
    ∃ (history : List (Event Unit)) (course : Course (Except Fault Unit)),
      (u.work onStop w stopAfter).1 = .ran course ∧ Mirrors (u.work onStop w stopAfter).2 (s.run history) ∧
        (s.run history).result? s.runs.length = course.outcome? := by
  let start : Event Unit := .start onStop fun _ => false
  let hold : Event Unit := .poll s.runs.length { tracks := w.holds }
  let look : Event Unit := .poll s.runs.length {}
  obtain ⟨begun, same, works⟩ := Shared.exists_holds accounted onStop
  cases stopped : s.state.stopped with
  | true =>
    have early : u.state.stopped = true := by rw [mirrors.state, stopped]
    obtain ⟨values, state, result⟩ := begun.stopped (by rw [same, stopped]) {}
    rw [work_stopped u onStop w stopAfter early]
    refine ⟨[start, look], _, rfl, ?_, result⟩
    have kept : (s.run [start, look]).state = u.state := state.trans (same.trans mirrors.state.symm)
    exact mirrors.back accounted (accounted.run [start, look]) values kept
  | false =>
    have early : u.state.stopped = false := by rw [mirrors.state, stopped]
    obtain ⟨working, going, grown, free⟩ := works stopped w.holds
    have unstopped := (congrArg HopState.stopped going).trans stopped
    cases moment : stopAfter.filter (w.course.waitsAt ·) with
    | some moment =>
      have interrupted : Shared.Holds s.values (s.run [start, hold, .stop]) s.runs.length onStop :=
        ⟨working.found, working.values, working.apart⟩
      obtain ⟨values, state, result⟩ := interrupted.stopped rfl {}
      rw [work_interrupted u onStop w stopAfter early ‹_›]
      refine ⟨[start, hold, .stop, look], _, rfl, ?_, result⟩
      have kept : (s.run [start, hold, .stop, look]).state = u.state.stop := by
        rw [mirrors.state, ← going]
        exact state
      exact mirrors.back accounted (accounted.run [start, hold, .stop, look]) values kept
    | none =>
      cases course : w.course with
      | ends after outcome =>
        let finish : Event Unit := .poll s.runs.length { drops := fun _ => true, progress := some outcome }
        obtain ⟨values, state, result⟩ := working.ends unstopped outcome
        rw [work_ends u onStop w stopAfter early ‹_› course]
        refine ⟨[start, hold, finish], _, rfl, ?_, by rw [course]; exact result⟩
        have kept : (s.run [start, hold, finish]).state = u.state.settle outcome := by
          rw [mirrors.state, ← going]
          exact state
        exact mirrors.back accounted (accounted.run [start, hold, finish]) values kept
      | never =>
        rw [work_never u onStop w stopAfter early ‹_› course]
        refine ⟨[start, hold], _, rfl, ⟨?_, ?_, ?_⟩, ?_⟩
        · exact mirrors.state.trans going.symm
        · have counted := (accounted.run [start, hold]).sockets
          have length : (s.run [start, hold]).values.length = s.values.length + w.holds := grown
          have before := accounted.sockets
          have mirrored := mirrors.sockets
          simp only
          omega
        · exact mirrors.values.trans (congrArg List.length free).symm
        · rw [course]
          exact working.result?_eq_none

theorem Mirrors.drop (mirrors : Mirrors u s) (accounted : s.Accounted) (values : List Nat)
    (fewer : values.length + 1 = u.values.length) :
    ∃ number, Mirrors { u with values, sockets := u.sockets - 1 } (s.step (.drop number)) := by
  have some_free : 0 < s.free.length := by rw [← mirrors.values, ← fewer]; exact Nat.succ_pos _
  obtain ⟨v, isFree⟩ := List.exists_mem_of_length_pos some_free
  obtain ⟨w, dropped, isFree'⟩ := Shared.exists_dropped isFree
  refine ⟨v.number, ?_⟩
  rw [dropped]
  have counted := accounted.sockets
  have mirrored := mirrors.sockets
  have within : s.free.length ≤ s.values.length := List.length_filter_le _ _
  refine ⟨mirrors.state, ?_, ?_⟩
  · simp only [Shared.drop]
    omega
  · have one := mirrors.values
    rw [Shared.free_drop, List.length_erase_of_mem isFree']
    simp only
    omega

/-- Each use of a hop is seen as it is where several use it. -/
theorem Mirrors.step (mirrors : Mirrors u s) (accounted : s.Accounted) (onStop : Fault) (use : UsageStep) :
    ∃ history : List (Event Unit), Mirrors (u.step onStop use).2 (s.run history) ∧
      ∀ course, (u.step onStop use).1 = .ran course →
        (s.run history).result? s.runs.length = course.outcome? := by
  cases use with
  | record fault =>
    have recorded : u.state.record fault = s.state.record fault := by rw [mirrors.state]
    exact ⟨[.record fault], ⟨recorded, mirrors.sockets, mirrors.values⟩, nofun⟩
  | stop =>
    have stopped : u.state.stop = s.state.stop := by rw [mirrors.state]
    exact ⟨[.stop], ⟨stopped, mirrors.sockets, mirrors.values⟩, nofun⟩
  | track =>
    refine ⟨[.track], ⟨mirrors.state, ?_, ?_⟩, nofun⟩
    · simp [Usage.step, Shared.run, Shared.step, Shared.track, mirrors.sockets]
    · simpa [Usage.step, Shared.run, Shared.step, Shared.track, Shared.free] using mirrors.values
  | dropFirst =>
    cases values : u.values with
    | nil => exact ⟨[], by simpa [Usage.step, values, Shared.run] using mirrors, by simp [Usage.step, values]⟩
    | cons first rest =>
      obtain ⟨number, mirrors'⟩ := mirrors.drop accounted rest (by simp [values])
      exact ⟨[.drop number], by simpa [Usage.step, values, Shared.run] using mirrors', by simp [Usage.step, values]⟩
  | dropLast =>
    cases values : u.values with
    | nil => exact ⟨[], by simpa [Usage.step, values, Shared.run] using mirrors, by simp [Usage.step, values]⟩
    | cons first rest =>
      obtain ⟨number, mirrors'⟩ := mirrors.drop accounted u.values.dropLast (by simp [values])
      rw [values] at mirrors'
      exact ⟨[.drop number], by simpa [Usage.step, values, Shared.run] using mirrors', by simp [Usage.step, values]⟩
  | run w stopAfter =>
    obtain ⟨history, course, ran, mirrors', result⟩ := mirrors.work accounted onStop w stopAfter
    refine ⟨history, mirrors', fun other same => ?_⟩
    cases ran.symm.trans same
    exact result

/-- All that is seen of a hop that one uses at a time is seen of one that several use. -/
theorem exists_shared (onStop : Fault) (uses : List UsageStep) :
    ∀ result u', (result, u') ∈ Usage.run onStop {} uses → ∃ history more : List (Event Unit),
      Mirrors u' (Shared.run {} (history ++ more)) ∧
      ∀ course, result = .ran course →
        (Shared.run {} (history ++ more)).result? (Shared.run {} history).runs.length = course.outcome? := by
  suffices later : ∀ (u : Usage) (history : List (Event Unit)), Mirrors u (Shared.run {} history) →
      ∀ result u', (result, u') ∈ Usage.run onStop u uses → ∃ history more : List (Event Unit),
        Mirrors u' (Shared.run {} (history ++ more)) ∧
        ∀ course, result = .ran course →
          (Shared.run {} (history ++ more)).result? (Shared.run {} history).runs.length = course.outcome? from
    later {} [] ⟨rfl, rfl, rfl⟩
  induction uses with
  | nil => exact fun _ _ _ _ _ member => absurd member List.not_mem_nil
  | cons use rest ih =>
    intro u history mirrors result u' member
    obtain ⟨more, mirrors', ran⟩ := mirrors.step (Shared.accounted_run history) onStop use
    rw [← Shared.run_append] at mirrors' ran
    rcases List.mem_cons.mp member with first | later
    · cases first
      exact ⟨history, more, mirrors', ran⟩
    · exact ih _ _ mirrors' result u' later

end Usage

namespace Shared

/-- In every history of a hop that several use, the failure on record is the first of those that were recorded, or
that work ended with at a look that found the hop not stopped, and it is there to stay; and the hop is stopped
exactly if a stop came. When work is looked at, it returns its failure on a stop if one came before: then it reports
nothing, and whatever it holds is dropped, and nothing else. If none came, it returns its own outcome as soon as it
has one. It returns in no other way, and only once. The count of open sockets is the number of tracked values that
nobody dropped, each of them once; work that has ended holds none. All that is seen of a hop whose uses come one at
a time is seen in such a history. -/
theorem stop_first_fault_sockets (α : Type) :
    (∀ history : List (Event α),
      let s : Shared α := run {} history
      s.state.firstFault = (reports history).head? ∧
      (∀ more fault, s.state.firstFault = some fault → (s.run more).state.firstFault = some fault) ∧
      (s.state.stopped = true ↔ .stop ∈ history) ∧
      (∀ i r t, s.runs[i]? = some r → r.status = .pending →
        let s' := s.step (.poll i t)
        (.stop ∈ history →
          s'.runs[i]? = some { r with status := .returned (.error r.onStop) } ∧ s'.state = s.state ∧
            s'.values = s.values.filter fun v => !v.isWith i) ∧
        (.stop ∉ history →
          s'.runs[i]? = some { r with status := t.progress.elim .pending .returned } ∧
            s'.state = t.progress.elim s.state s.state.settle)) ∧
      (∀ i r outcome, s.runs[i]? = some r → r.status = .returned outcome →
        (∃ before t after, history = before ++ .poll i t :: after ∧ (run {} before).isPending i = true ∧
          (.stop ∈ before ∧ outcome = .error r.onStop ∨ .stop ∉ before ∧ t.progress = some outcome)) ∧
        ∀ more, (s.run more).runs[i]? = some r) ∧
      s.sockets = s.values.length ∧ (s.values.map Value.number).Nodup ∧
      ∀ v ∈ s.values, ∀ i, v.holder = some i → s.isPending i = true) ∧
    ∀ onStop uses result u, (result, u) ∈ Usage.run onStop {} uses →
      ∃ history more : List (Event Unit), u.Mirrors (run {} (history ++ more)) ∧
        ∀ course, result = .ran course →
          (run {} (history ++ more)).result? (run {} history).runs.length = course.outcome? := by
  refine ⟨fun history => ?_, Usage.exists_shared⟩
  intro s
  have stopped (history : List (Event α)) : (run {} history).state.stopped = true ↔ .stop ∈ history := by
    simp [stopped_run]
  have unstopped (history : List (Event α)) : (run {} history).state.stopped = false ↔ .stop ∉ history := by
    rw [← stopped, Bool.not_eq_true]
  have accounted : s.Accounted := accounted_run history
  refine ⟨?_, ?_, stopped history, ?_, ?_, accounted.sockets, accounted.distinct, accounted.holders⟩
  · exact (firstFault_run {} history).trans Option.none_or
  · intro more fault known
    rw [firstFault_run, known, Option.some_or]
  · intro i r t found pending
    exact ⟨fun stop => look_stopped found pending ((stopped history).mpr stop) t,
      fun never => look_unstopped found pending ((unstopped history).mpr never) t⟩
  · intro i r outcome found done
    refine ⟨?_, getElem?_run_returned found done⟩
    rcases returned_run found done with ⟨r₀, there, -⟩ | ⟨before, t, after, split, pending, comes⟩
    · simp at there
    · rw [stopped, unstopped] at comes
      exact ⟨before, t, after, split, pending, comes⟩

/-- Work that holds a value has its outcome at the very moment of the stop, which wins; a little earlier, it would
have returned the outcome. -/
theorem stop_first_fault_sockets_tie :
    let onStop : Fault := .proxyConnect "p:1" "tunnel stopped" ""
    let before : List (Event Nat) := [.start onStop fun _ => false, .poll 0 { tracks := 1 }]
    let last : Turn Nat := { progress := some (.ok 7) }
    let early : Shared Nat := (run {} before).step (.poll 0 last)
    let late : Shared Nat := (run {} (before ++ [.stop])).step (.poll 0 last)
    (run {} before).sockets = 1 ∧ .stop ∉ before ∧
      early.runs[0]? = some { onStop, status := .returned (.ok 7) } ∧
      late.runs[0]? = some { onStop, status := .returned (.error onStop) } ∧ late.values = [] ∧
      late.state.firstFault = none ∧
      ∃ history more : List (Event Unit),
        (run {} (history ++ more)).result? (run {} history).runs.length = some (.error onStop) := by
  intro onStop before last early late
  have unstopped : .stop ∉ before := by simp [before]
  obtain ⟨-, -, -, looks, -⟩ := (stop_first_fault_sockets Nat).1 before
  obtain ⟨-, -, -, looks', -⟩ := (stop_first_fault_sockets Nat).1 (before ++ [.stop])
  obtain ⟨outcome, -⟩ := (looks 0 { onStop } last rfl rfl).2 unstopped
  obtain ⟨failure, state, values⟩ := (looks' 0 { onStop } last rfl rfl).1 (by simp)
  obtain ⟨history, more, -, ran⟩ := (stop_first_fault_sockets Nat).2 onStop
    [.run ⟨1, .ends 5 (.ok ())⟩ (some 5)] _ _ (.head _)
  exact ⟨rfl, unstopped, outcome, failure, values, congrArg HopState.firstFault state, history, more, ran _ rfl⟩

end Shared

end Passage
