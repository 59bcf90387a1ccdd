import Passage.Hop.Sharing

namespace Passage.Shared

variable {α : Type} {s : Shared α} {i : Nat} {r : Run α} {t : Turn α}

theorem run_append (s : Shared α) (before after : List (Event α)) :
    s.run (before ++ after) = (s.run before).run after :=
  List.foldl_append

theorem foldl_erase_cons {a : Value} {removed l : List Value} (other : a ∉ removed) :
    removed.foldl List.erase (a :: l) = a :: removed.foldl List.erase l := by
  induction removed generalizing l with
  | nil => rfl
  | cons b rest ih =>
    obtain ⟨differs, later⟩ : a ≠ b ∧ a ∉ rest := by simpa using other
    rw [List.foldl_cons, List.foldl_cons, List.erase_cons_tail (by simpa using differs), ih later]

theorem foldl_erase_filter (p : Value → Bool) (l : List Value) :
    (l.filter p).foldl List.erase l = l.filter fun v => !p v := by
  induction l with
  | nil => rfl
  | cons a rest ih =>
    cases dropped : p a with
    | true => simp [dropped, ih]
    | false =>
      have other : a ∉ rest.filter p := fun member => by simp [dropped] at member
      simp [dropped, foldl_erase_cons other, ih]

theorem foldl_drop (removed : List Value) (s : Shared α) :
    removed.foldl drop s =
      { s with sockets := s.sockets - removed.length, values := removed.foldl List.erase s.values } := by
  induction removed generalizing s with
  | nil => simp
  | cons v rest ih =>
    rw [List.foldl_cons, ih]
    simp only [drop, List.foldl_cons, List.length_cons, mk.injEq, and_true, true_and]
    omega

/-- All values of the kind are gone, and as many are no longer counted. -/
theorem release_eq (s : Shared α) (p : Value → Bool) :
    s.release p =
      { s with sockets := s.sockets - (s.values.filter p).length, values := s.values.filter fun v => !p v } := by
  rw [release, foldl_drop, foldl_erase_filter]

@[simp]
theorem trackMany_state (holder : Option Nat) (n : Nat) : (s.trackMany holder n).state = s.state := by
  induction n with
  | zero => rfl
  | succ n ih => exact ih

@[simp]
theorem trackMany_runs (holder : Option Nat) (n : Nat) : (s.trackMany holder n).runs = s.runs := by
  induction n with
  | zero => rfl
  | succ n ih => exact ih

@[simp]
theorem release_state (p : Value → Bool) : (s.release p).state = s.state := by
  rw [release_eq]

@[simp]
theorem release_runs (p : Value → Bool) : (s.release p).runs = s.runs := by
  rw [release_eq]

@[simp]
theorem turn_state : (s.turn i t).state = s.state := by
  simp [turn, pass]

@[simp]
theorem turn_runs : (s.turn i t).runs = s.runs := by
  simp [turn, pass]

@[simp]
theorem finish_state (outcome : Except Fault α) : (s.finish i outcome).state = s.state := by
  cases outcome <;> simp [finish, mark, pass]

theorem finish_runs (outcome : Except Fault α) :
    (s.finish i outcome).runs = s.runs.modify i fun r => { r with status := .returned outcome } := by
  cases outcome <;> simp [finish, mark, pass]

theorem finish_error_values (s : Shared α) (i : Nat) (fault : Fault) :
    (s.finish i (.error fault)).values = s.values.filter fun v => !v.isWith i := by
  simp [finish, mark, release_eq]

theorem isPending_iff : s.isPending i = true ↔ ∃ r, s.runs[i]? = some r ∧ r.status = .pending := by
  unfold isPending
  split
  · next found => exact ⟨fun _ => ⟨_, found, rfl⟩, fun _ => rfl⟩
  · next other =>
    refine ⟨nofun, fun ⟨r, found, pending⟩ => ?_⟩
    cases r
    cases pending
    exact absurd found (other _)

theorem poll_idle (idle : s.isPending i = false) (t : Turn α) : s.poll i t = s := by
  unfold poll
  split
  · next found =>
    rw [isPending_iff.mpr ⟨_, found, rfl⟩] at idle
    cases idle
  · rfl

section

variable (found : s.runs[i]? = some r) (pending : r.status = .pending)
include found pending

theorem poll_stopped (stopped : s.state.stopped = true) (t : Turn α) :
    s.poll i t = s.finish i (.error r.onStop) := by
  cases r
  cases pending
  simp [poll, found, HopState.poll, stopped]

theorem poll_waits (unstopped : s.state.stopped = false) (waits : t.progress = none) :
    s.poll i t = s.turn i t := by
  cases r
  cases pending
  simp [poll, found, HopState.poll, unstopped, waits]

theorem poll_ends (unstopped : s.state.stopped = false) {outcome : Except Fault α}
    (ends : t.progress = some outcome) :
    s.poll i t = { s.turn i t with state := s.state.settle outcome }.finish i outcome := by
  cases r
  cases pending
  simp [poll, found, HopState.poll, unstopped, ends]

end

/-- What one look at work comes to. -/
inductive Polled (s : Shared α) (i : Nat) (t : Turn α) : Prop where
  | idle (idle : s.isPending i = false) (same : s.poll i t = s)
  | stopped {r : Run α} (found : s.runs[i]? = some r) (pending : r.status = .pending)
      (stopped : s.state.stopped = true) (same : s.poll i t = s.finish i (.error r.onStop))
  | waits {r : Run α} (found : s.runs[i]? = some r) (pending : r.status = .pending)
      (unstopped : s.state.stopped = false) (waits : t.progress = none) (same : s.poll i t = s.turn i t)
  | ends {r : Run α} (found : s.runs[i]? = some r) (pending : r.status = .pending)
      (unstopped : s.state.stopped = false) (outcome : Except Fault α) (ends : t.progress = some outcome)
      (same : s.poll i t = { s.turn i t with state := s.state.settle outcome }.finish i outcome)

theorem polled (s : Shared α) (i : Nat) (t : Turn α) : s.Polled i t := by
  cases idle : s.isPending i with
  | false => exact .idle idle (poll_idle idle t)
  | true =>
    obtain ⟨r, found, pending⟩ := isPending_iff.mp idle
    cases stopped : s.state.stopped with
    | true => exact .stopped found pending stopped (poll_stopped found pending stopped t)
    | false =>
      cases progress : t.progress with
      | none => exact .waits found pending stopped progress (poll_waits found pending stopped progress)
      | some outcome =>
        exact .ends found pending stopped outcome progress (poll_ends found pending stopped progress)

/-- Every value is counted once, and work that holds one has not ended. -/
structure Accounted (s : Shared α) : Prop where
  sockets : s.sockets = s.values.length
  known : ∀ v ∈ s.values, v.number < s.tracked
  distinct : (s.values.map Value.number).Nodup
  holders : ∀ v ∈ s.values, ∀ i, v.holder = some i → s.isPending i = true

namespace Accounted

variable (accounted : s.Accounted)
include accounted

theorem track {holder : Option Nat} (able : ∀ i, holder = some i → s.isPending i = true) :
    (s.track holder).Accounted where
  sockets := by
    simp [Shared.track, accounted.sockets]
  known v member := by
    rcases List.mem_append.mp member with old | new
    · exact Nat.lt_succ_of_lt (accounted.known v old)
    · rw [List.mem_singleton.mp new]
      exact Nat.lt_succ_self _
  distinct := by
    have fresh : ∀ v ∈ s.values, v.number ≠ s.tracked := fun v member => Nat.ne_of_lt (accounted.known v member)
    simpa [Shared.track, List.nodup_append, accounted.distinct] using fresh
  holders v member j holds := by
    rcases List.mem_append.mp member with old | new
    · exact accounted.holders v old j holds
    · rw [List.mem_singleton.mp new] at holds
      exact able j holds

theorem trackMany {holder : Option Nat} (able : ∀ i, holder = some i → s.isPending i = true) (n : Nat) :
    (s.trackMany holder n).Accounted := by
  induction n with
  | zero => exact accounted
  | succ n ih =>
    refine ih.track fun i held => ?_
    simpa [isPending] using able i held

theorem release (p : Value → Bool) : (s.release p).Accounted := by
  rw [release_eq]
  have parts : s.values.length = (s.values.filter p).length + (s.values.filter fun v => !p v).length := by
    simpa [List.countP_eq_length_filter] using List.length_eq_countP_add_countP p (l := s.values)
  have fewer : (s.values.filter fun v => !p v).Sublist s.values := List.filter_sublist
  refine ⟨?_, fun v member => accounted.known v (fewer.subset member), accounted.distinct.sublist (fewer.map _),
    fun v member => accounted.holders v (fewer.subset member)⟩
  have counted := accounted.sockets
  simp only
  omega

theorem drop {v : Value} (member : v ∈ s.values) : (s.drop v).Accounted := by
  have fewer : (s.values.erase v).Sublist s.values := List.erase_sublist
  refine ⟨?_, fun w left => accounted.known w (fewer.subset left), accounted.distinct.sublist (fewer.map _),
    fun w left => accounted.holders w (fewer.subset left)⟩
  have length := List.length_erase_of_mem member
  have positive := List.length_pos_of_mem member
  have counted := accounted.sockets
  simp only [Shared.drop]
  omega

theorem pass (p : Value → Bool) {holder : Option Nat} (able : ∀ i, holder = some i → s.isPending i = true) :
    (s.pass p holder).Accounted := by
  have numbers : (s.pass p holder).values.map Value.number = s.values.map Value.number := by
    simp only [Shared.pass, List.map_map, List.map_inj_left, Function.comp_apply]
    intro v _
    split <;> rfl
  refine ⟨?_, ?_, numbers ▸ accounted.distinct, ?_⟩
  · simpa [Shared.pass] using accounted.sockets
  · intro v member
    obtain ⟨w, old, rfl⟩ := List.mem_map.mp member
    have known := accounted.known w old
    split <;> exact known
  · intro v member j holds
    obtain ⟨w, old, rfl⟩ := List.mem_map.mp member
    split at holds
    · exact able j holds
    · exact accounted.holders w old j holds

theorem restate (state : HopState) : { s with state }.Accounted :=
  ⟨accounted.sockets, accounted.known, accounted.distinct, accounted.holders⟩

theorem mark (empty : ∀ v ∈ s.values, v.holder ≠ some i) (status : Status α) : (s.mark i status).Accounted := by
  refine ⟨accounted.sockets, accounted.known, accounted.distinct, fun v member j holds => ?_⟩
  have other : i ≠ j := by
    rintro rfl
    exact empty v member holds
  have before := accounted.holders v member j holds
  rw [isPending_iff] at before ⊢
  obtain ⟨r, found, pending⟩ := before
  exact ⟨r, by simp [Shared.mark, other, found], pending⟩

theorem turn (pending : s.isPending i = true) (t : Turn α) : (s.turn i t).Accounted := by
  have able : ∀ j, some i = some j → s.isPending j = true := by
    rintro j ⟨rfl⟩
    exact pending
  exact ((accounted.trackMany able t.tracks).release _).pass _ (by simp)

end Accounted

/-- Work that returns, or is abandoned, no longer holds anything. -/
theorem not_held_release (s : Shared α) (i : Nat) : ∀ v ∈ (s.release (·.isWith i)).values, v.holder ≠ some i := by
  intro v member holds
  rw [release_eq] at member
  simp [Value.isWith, holds] at member

theorem not_held_pass (s : Shared α) (i : Nat) : ∀ v ∈ (s.pass (·.isWith i) none).values, v.holder ≠ some i := by
  intro v member holds
  obtain ⟨w, -, rfl⟩ := List.mem_map.mp member
  split at holds
  · cases holds
  · next other => simp [Value.isWith, holds] at other

namespace Accounted

theorem finish (accounted : s.Accounted) (outcome : Except Fault α) : (s.finish i outcome).Accounted := by
  cases outcome with
  | ok => exact (accounted.pass _ (by simp)).mark (s.not_held_pass i) _
  | error => exact (accounted.release _).mark (s.not_held_release i) _

theorem poll (accounted : s.Accounted) (i : Nat) (t : Turn α) : (s.poll i t).Accounted := by
  cases s.polled i t with
  | idle idle same =>
    rw [same]
    exact accounted
  | stopped found pending stopped same =>
    rw [same]
    exact accounted.finish _
  | waits found pending unstopped waits same =>
    rw [same]
    exact accounted.turn (isPending_iff.mpr ⟨_, found, pending⟩) t
  | ends found pending unstopped outcome ends same =>
    rw [same]
    exact ((accounted.turn (isPending_iff.mpr ⟨_, found, pending⟩) t).restate _).finish _

theorem start (accounted : s.Accounted) (onStop : Fault) (takes : Nat → Bool) :
    (s.step (.start onStop takes)).Accounted := by
  let begun : Shared α := { s with runs := s.runs ++ [{ onStop }] }
  have still : ∀ j, s.isPending j = true → begun.isPending j = true := by
    intro j before
    obtain ⟨r, found, pending⟩ := isPending_iff.mp before
    refine isPending_iff.mpr ⟨r, ?_, pending⟩
    exact (List.getElem?_append_left (List.getElem?_eq_some_iff.mp found).1).trans found
  have longer : begun.Accounted :=
    ⟨accounted.sockets, accounted.known, accounted.distinct, fun v member j holds =>
      still j (accounted.holders v member j holds)⟩
  refine longer.pass _ ?_
  rintro j ⟨rfl⟩
  simp [isPending, begun]

theorem step (accounted : s.Accounted) (e : Event α) : (s.step e).Accounted := by
  cases e with
  | record | stop => exact accounted.restate _
  | track => exact accounted.track (by simp)
  | drop number =>
    simp only [Shared.step]
    split
    · next found => exact accounted.drop (List.mem_of_find?_eq_some found)
    · exact accounted
  | start onStop takes => exact accounted.start onStop takes
  | poll i t => exact accounted.poll i t
  | abandon i =>
    simp only [Shared.step]
    split
    · exact (accounted.release _).mark (s.not_held_release i) _
    · exact accounted

theorem run (accounted : s.Accounted) (history : List (Event α)) : (s.run history).Accounted := by
  induction history generalizing s with
  | nil => exact accounted
  | cons e rest ih => exact ih (accounted.step e)

end Accounted

theorem accounted_run (history : List (Event α)) : (run {} history).Accounted :=
  Accounted.run ⟨rfl, by simp, by simp, by simp⟩ history

end Passage.Shared
