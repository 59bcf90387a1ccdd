import Passage.Proofs.Hop.Counting
import Passage.Proofs.Hop.Histories

namespace Passage.Shared

variable {α : Type} {s : Shared α} {i : Nat} {r : Run α} {t : Turn α} {e : Event α}

theorem stopped_poll (s : Shared α) (i : Nat) (t : Turn α) : (s.poll i t).state.stopped = s.state.stopped := by
  cases s.polled i t with
  | idle idle same => rw [same]
  | stopped found pending stopped same => rw [same, finish_state]
  | waits found pending unstopped waits same => rw [same, turn_state]
  | ends found pending unstopped outcome ends same =>
    rw [same, finish_state]
    cases outcome <;> rfl

theorem stopped_step (s : Shared α) (e : Event α) :
    (s.step e).state.stopped = true ↔ s.state.stopped = true ∨ e = .stop := by
  cases e with
  | stop => simp [step, HopState.stop]
  | record | track | start => simp [step, HopState.record, track, pass]
  | drop number =>
    simp only [step]
    split <;> simp [drop]
  | poll i t => simp [step, stopped_poll]
  | abandon i =>
    simp only [step]
    split <;> simp [mark]

theorem stopped_run (s : Shared α) (history : List (Event α)) :
    (s.run history).state.stopped = true ↔ s.state.stopped = true ∨ .stop ∈ history := by
  induction history generalizing s with
  | nil => simp [run]
  | cons e rest ih =>
    change ((s.step e).run rest).state.stopped = true ↔ _
    rw [ih, stopped_step, List.mem_cons, or_assoc, @eq_comm _ e]

/-- The failure that an event reports: one that is recorded, or that of work that ends while the hop is not stopped. -/
def report? (s : Shared α) : Event α → Option Fault
  | .record fault => some fault
  | .poll i t =>
    match s.isPending i && !s.state.stopped, t.progress with
    | true, some (.error fault) => some fault
    | _, _ => none
  | _ => none

/-- The failures that are reported in the course of a history. -/
def reports (history : List (Event α)) : List Fault :=
  History.findings step report? {} history

theorem firstFault_step (s : Shared α) (e : Event α) :
    (s.step e).state.firstFault = s.state.firstFault.or (s.report? e) := by
  cases e with
  | record => rfl
  | stop | track | start => exact Option.or_none.symm
  | drop number =>
    simp only [step]
    split <;> exact Option.or_none.symm
  | abandon i =>
    simp only [step]
    split <;> simp [mark, report?]
  | poll i t =>
    simp only [step, report?]
    cases s.polled i t with
    | idle idle same => simp [same, idle]
    | stopped found pending stopped same => simp [same, stopped]
    | waits found pending unstopped waits same => simp [same, waits]
    | ends found pending unstopped outcome ends same =>
      have working : s.isPending i = true := isPending_iff.mpr ⟨_, found, pending⟩
      cases outcome <;> simp [same, working, unstopped, ends, HopState.settle, HopState.record]

theorem firstFault_run (s : Shared α) (history : List (Event α)) :
    (s.run history).state.firstFault = s.state.firstFault.or (History.findings step report? s history).head? :=
  History.foldl_filled (fun s : Shared α => s.state.firstFault) firstFault_step s history

def Run.looked (r : Run α) (stopped : Bool) (progress : Option (Except Fault α)) : Status α :=
  match r.status with
  | .pending => if stopped then .returned (.error r.onStop) else progress.elim .pending .returned
  | ended => ended

def Run.after (r : Run α) (stopped : Bool) (i : Nat) : Event α → Run α
  | .poll j t => if j = i then { r with status := r.looked stopped t.progress } else r
  | .abandon j =>
    match r.status with
    | .pending => if j = i then { r with status := .abandoned } else r
    | _ => r
  | _ => r

theorem getElem?_mark (s : Shared α) (j : Nat) (status : Status α) (i : Nat) :
    (s.mark j status).runs[i]? = s.runs[i]?.map fun r => if j = i then { r with status } else r :=
  List.getElem?_modify _ j s.runs i

theorem getElem?_finish (s : Shared α) (j : Nat) (outcome : Except Fault α) (i : Nat) :
    (s.finish j outcome).runs[i]? =
      s.runs[i]?.map fun r => if j = i then { r with status := .returned outcome } else r := by
  rw [finish_runs, List.getElem?_modify]
  rfl

theorem getElem?_poll (found : s.runs[i]? = some r) (j : Nat) (t : Turn α) :
    (s.poll j t).runs[i]? = some (r.after s.state.stopped i (.poll j t)) := by
  by_cases own : j = i
  · subst own
    rw [Run.after, if_pos rfl, Run.looked]
    cases s.polled j t with
    | idle idle same =>
      cases status : r.status with
      | pending =>
        rw [isPending_iff.mpr ⟨r, found, status⟩] at idle
        cases idle
      | returned | abandoned => simp [same, found, ← status]
    | stopped at_j pending stopped same =>
      cases found.symm.trans at_j
      simp [same, getElem?_finish, found, pending, stopped]
    | waits at_j pending unstopped waits same =>
      cases found.symm.trans at_j
      rw [same, turn_runs, found, pending]
      simp [unstopped, waits, ← pending]
    | ends at_j pending unstopped outcome ends same =>
      cases found.symm.trans at_j
      simp [same, getElem?_finish, found, pending, unstopped, ends]
  · rw [Run.after, if_neg own]
    cases s.polled j t with
    | idle idle same => rw [same, found]
    | stopped at_j pending stopped same => simp [same, getElem?_finish, found, own]
    | waits at_j pending unstopped waits same => simp [same, found]
    | ends at_j pending unstopped outcome ends same => simp [same, getElem?_finish, found, own]

section

variable (found : s.runs[i]? = some r) (pending : r.status = .pending)
include found pending

/-- A look that finds the hop stopped ends the work, whatever it would have come to. -/
theorem look_stopped (stopped : s.state.stopped = true) (t : Turn α) :
    (s.poll i t).runs[i]? = some { r with status := .returned (.error r.onStop) } ∧ (s.poll i t).state = s.state ∧
      (s.poll i t).values = s.values.filter fun v => !v.isWith i := by
  refine ⟨?_, ?_, ?_⟩
  · simpa [Run.after, Run.looked, pending, stopped] using getElem?_poll found i t
  · rw [poll_stopped found pending stopped, finish_state]
  · rw [poll_stopped found pending stopped, finish_error_values]

/-- Otherwise work comes to its own outcome, if it has one. -/
theorem look_unstopped (unstopped : s.state.stopped = false) (t : Turn α) :
    (s.poll i t).runs[i]? = some { r with status := t.progress.elim .pending .returned } ∧
      (s.poll i t).state = t.progress.elim s.state s.state.settle := by
  refine ⟨?_, ?_⟩
  · simpa [Run.after, Run.looked, pending, unstopped] using getElem?_poll found i t
  · cases progress : t.progress with
    | none => rw [poll_waits found pending unstopped progress, turn_state, Option.elim_none]
    | some outcome => rw [poll_ends found pending unstopped progress, finish_state, Option.elim_some]

end

theorem getElem?_step (found : s.runs[i]? = some r) (e : Event α) :
    (s.step e).runs[i]? = some (r.after s.state.stopped i e) := by
  cases e with
  | record | stop | track => exact found
  | drop number =>
    simp only [step]
    split <;> exact found
  | start onStop takes =>
    exact (List.getElem?_append_left (List.getElem?_eq_some_iff.mp found).1).trans found
  | poll j t => exact getElem?_poll found j t
  | abandon j =>
    simp only [step, Run.after]
    by_cases own : j = i
    · subst own
      cases status : r.status with
      | pending =>
        have pending : s.isPending j = true := isPending_iff.mpr ⟨r, found, status⟩
        simp [pending, getElem?_mark, found]
      | returned | abandoned =>
        have idle : s.isPending j = false := by
          simp [Bool.eq_false_iff, isPending_iff, found, status]
        simp [idle, found]
    · split <;> split <;> simp [getElem?_mark, found, own]

theorem length_poll (s : Shared α) (i : Nat) (t : Turn α) : (s.poll i t).runs.length = s.runs.length := by
  cases s.polled i t with
  | idle idle same => rw [same]
  | stopped found pending stopped same => rw [same, finish_runs, List.length_modify]
  | waits found pending unstopped waits same => rw [same, turn_runs]
  | ends found pending unstopped outcome ends same =>
    rw [same, finish_runs, List.length_modify]
    exact congrArg List.length turn_runs

/-- Work that there is was there before, or has just begun. -/
theorem getElem?_step_cases (e : Event α) (found : (s.step e).runs[i]? = some r) :
    (∃ r₀, s.runs[i]? = some r₀ ∧ r = r₀.after s.state.stopped i e) ∨ r.status = .pending := by
  cases before : s.runs[i]? with
  | some r₀ =>
    rw [getElem?_step before e] at found
    exact .inl ⟨r₀, rfl, (Option.some.inj found).symm⟩
  | none =>
    have beyond := List.getElem?_eq_none_iff.mp before
    have there := (List.getElem?_eq_some_iff.mp found).1
    cases e with
    | start onStop takes =>
      right
      change (s.runs ++ [_])[i]? = some r at found
      rw [List.getElem?_append_right beyond] at found
      rw [List.mem_singleton.mp (List.mem_of_getElem? found)]
    | record | stop | track => exact absurd there (Nat.not_lt_of_le beyond)
    | drop number =>
      simp only [step] at there
      split at there <;> exact absurd there (Nat.not_lt_of_le beyond)
    | poll j t =>
      rw [step, length_poll] at there
      exact absurd there (Nat.not_lt_of_le beyond)
    | abandon j =>
      simp only [step] at there
      split at there
      · rw [mark, List.length_modify, release_runs] at there
        exact absurd there (Nat.not_lt_of_le beyond)
      · exact absurd there (Nat.not_lt_of_le beyond)

theorem getElem?_run_returned {outcome : Except Fault α} (found : s.runs[i]? = some r)
    (done : r.status = .returned outcome) (more : List (Event α)) : (s.run more).runs[i]? = some r := by
  induction more generalizing s with
  | nil => exact found
  | cons e rest ih =>
    apply ih
    rw [getElem?_step found]
    cases e with
    | poll j t =>
      have same : r.looked s.state.stopped t.progress = r.status := by
        simp [Run.looked, done]
      simp [Run.after, same]
    | abandon j => simp [Run.after, done]
    | _ => rfl

/-- Work comes to what it comes to at one look, which finds it under way. -/
theorem returned_step {outcome : Except Fault α} (found : (s.step e).runs[i]? = some r)
    (done : r.status = .returned outcome) :
    (∃ r₀, s.runs[i]? = some r₀ ∧ r₀.status = .returned outcome ∧ r₀.onStop = r.onStop) ∨
      ∃ t, e = .poll i t ∧ s.isPending i = true ∧
        (s.state.stopped = true ∧ outcome = .error r.onStop ∨
          s.state.stopped = false ∧ t.progress = some outcome) := by
  rcases getElem?_step_cases e found with ⟨r₀, before, rfl⟩ | pending
  · cases e with
    | poll j t =>
      by_cases own : j = i
      · subst own
        simp only [Run.after, if_true] at done ⊢
        cases status : r₀.status with
        | pending =>
          refine .inr ⟨t, rfl, isPending_iff.mpr ⟨r₀, before, status⟩, ?_⟩
          rw [Run.looked, status] at done
          cases stopped : s.state.stopped with
          | true =>
            rw [stopped] at done
            cases done
            exact .inl ⟨rfl, rfl⟩
          | false =>
            rw [stopped] at done
            cases progress : t.progress with
            | none =>
              rw [progress] at done
              cases done
            | some own =>
              rw [progress] at done
              cases done
              exact .inr ⟨rfl, rfl⟩
        | returned | abandoned =>
          rw [Run.looked, status] at done
          exact .inl ⟨r₀, before, status.trans done, rfl⟩
      · rw [Run.after, if_neg own] at done ⊢
        exact .inl ⟨r₀, before, done, rfl⟩
    | abandon j =>
      left
      cases status : r₀.status with
      | pending =>
        simp only [Run.after, status] at done
        split at done
        · cases done
        · cases status.symm.trans done
      | returned | abandoned =>
        simp only [Run.after, status] at done ⊢
        exact ⟨r₀, before, status.trans done, rfl⟩
    | _ => exact .inl ⟨r₀, before, done, rfl⟩
  · cases pending.symm.trans done

/-- Work that has returned did so at one look at it. -/
theorem returned_run {history : List (Event α)} {outcome : Except Fault α}
    (found : (s.run history).runs[i]? = some r) (done : r.status = .returned outcome) :
    (∃ r₀, s.runs[i]? = some r₀ ∧ r₀.status = .returned outcome) ∨
      ∃ before t after, history = before ++ .poll i t :: after ∧ (s.run before).isPending i = true ∧
        ((s.run before).state.stopped = true ∧ outcome = .error r.onStop ∨
          (s.run before).state.stopped = false ∧ t.progress = some outcome) := by
  induction history generalizing s with
  | nil => exact .inl ⟨r, found, done⟩
  | cons e rest ih =>
    rcases ih (s := s.step e) found with ⟨r₁, at_first, done₁⟩ | ⟨before, t, after, rfl, pending, comes⟩
    · cases (getElem?_run_returned at_first done₁ rest).symm.trans found
      rcases returned_step at_first done with ⟨r₀, before, done₀, -⟩ | ⟨t, rfl, pending, comes⟩
      · exact .inl ⟨r₀, before, done₀⟩
      · exact .inr ⟨[], t, rest, rfl, pending, comes⟩
    · exact .inr ⟨e :: before, t, after, rfl, pending, comes⟩

end Passage.Shared
