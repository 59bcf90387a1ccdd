import Passage.Hop.Ssh
import Passage.Proofs.Hop.Histories

namespace Passage.Ssh.Hop

section

variable (h : Hop) (call : Nat) (point : Point)

@[simp]
theorem state_place : (h.place call point).state = h.state := rfl

@[simp]
theorem sessions_place : (h.place call point).sessions = h.sessions := rfl

@[simp]
theorem disconnected_place : (h.place call point).disconnected = h.disconnected := rfl

@[simp]
theorem dropped_place : (h.place call point).dropped = h.dropped := rfl

theorem getElem?_place (i : Nat) :
    (h.place call point).calls[i]? =
      h.calls[i]?.map fun (old, next) => (if call = i then point else old, next) := by
  simp only [place, List.getElem?_modify]
  cases h.calls[i]? with
  | none => rfl
  | some found => by_cases same : call = i <;> simp [same]

end

def registered? (h : Hop) : Step → Option Nat
  | .register call =>
    match h.calls[call]? with
    | some (.registering, _) => some call
    | _ => none
  | _ => none

/-- The calls whose sessions a history registers, in order. -/
def registrations (h : Hop) (history : List Step) : List Nat :=
  History.findings step registered? h history

/-- The sessions that a step takes, each with whether a runtime was there for its disconnection. -/
def taken (h : Hop) : Step → List (Nat × Bool)
  | .withdraw call runtime =>
    match h.calls[call]? with
    | some (.withdrawing, _) => h.sessions.map (·, runtime)
    | _ => []
  | .sweep runtime => if h.stopping = 0 then [] else h.sessions.map (·, runtime)
  | _ => []

/-- The sessions that a history takes, in order. -/
def takings (h : Hop) : List Step → List (Nat × Bool)
  | [] => []
  | s :: rest => h.taken s ++ (h.step s).takings rest

/-- The sessions that were taken inside a runtime, or those that were taken outside one. -/
def takenWith (runtime : Bool) (takings : List (Nat × Bool)) : List Nat :=
  (takings.filter (·.2 == runtime)).map (·.1)

@[simp]
theorem takenWith_nil (runtime : Bool) : takenWith runtime [] = [] := rfl

theorem takenWith_append (runtime : Bool) (before after : List (Nat × Bool)) :
    takenWith runtime (before ++ after) = takenWith runtime before ++ takenWith runtime after := by
  simp [takenWith]

@[simp]
theorem takenWith_map (runtime taker : Bool) (sessions : List Nat) :
    takenWith runtime (sessions.map (·, taker)) = if taker = runtime then sessions else [] := by
  cases runtime <;> cases taker <;> simp [takenWith, List.filter_map, Function.comp_def]

/-- What a step takes, it takes from the sessions that are registered, and none overtakes another. -/
theorem taken_step (h : Hop) (s : Step) :
    (h.taken s).map Prod.fst ++ (h.step s).sessions = h.sessions ++ (h.registered? s).toList := by
  cases s with
  | register call =>
    rcases at_call : h.calls[call]? with _ | ⟨_ | _ | _ | _ | _ | _, _⟩ <;>
      simp [step, taken, registered?, at_call]
  | withdraw call runtime =>
    rcases at_call : h.calls[call]? with _ | ⟨_ | _ | _ | _ | _ | _, _⟩ <;>
      simp [step, taken, registered?, at_call, finish, giveUp, Function.comp_def]
  | sweep runtime =>
    simp only [step, taken, registered?]
    split <;> simp [giveUp, Function.comp_def]
  | call next | raise => simp [step, taken, registered?]
  | look call | wait call | succeed call | fail call failure | check call =>
    simp only [step, taken, registered?]
    repeat' split
    all_goals simp [finish]

/-- A runtime is handed what a step takes; without one it is dropped. -/
theorem handed_step (h : Hop) (s : Step) :
    (h.step s).disconnected = h.disconnected ++ takenWith true (h.taken s) ∧
      (h.step s).dropped = h.dropped ++ takenWith false (h.taken s) := by
  cases s with
  | withdraw call runtime =>
    rcases at_call : h.calls[call]? with _ | ⟨_ | _ | _ | _ | _ | _, _⟩ <;>
      cases runtime <;> simp [step, taken, at_call, finish, giveUp]
  | sweep runtime =>
    simp only [step, taken]
    split <;> cases runtime <;> simp [giveUp]
  | call next | raise => simp [step, taken]
  | look call | wait call | succeed call | fail call failure | register call | check call =>
    simp only [step, taken]
    repeat' split
    all_goals simp [finish]

theorem takings_run (h : Hop) (history : List Step) :
    (h.takings history).map Prod.fst ++ (h.run history).sessions = h.sessions ++ h.registrations history := by
  induction history generalizing h with
  | nil => simp [takings, run, registrations, History.findings]
  | cons s rest ih =>
    calc (h.takings (s :: rest)).map Prod.fst ++ (h.run (s :: rest)).sessions
        = (h.taken s).map Prod.fst ++ (((h.step s).takings rest).map Prod.fst ++ ((h.step s).run rest).sessions) := by
          simp [takings, run]
      _ = (h.taken s).map Prod.fst ++ (h.step s).sessions ++ (h.step s).registrations rest := by
          rw [ih, List.append_assoc]
      _ = h.sessions ++ h.registrations (s :: rest) := by
          rw [taken_step, List.append_assoc]
          rfl

theorem handed_run (h : Hop) (history : List Step) :
    (h.run history).disconnected = h.disconnected ++ takenWith true (h.takings history) ∧
      (h.run history).dropped = h.dropped ++ takenWith false (h.takings history) := by
  induction history generalizing h with
  | nil => simp [takings, run]
  | cons s rest ih =>
    obtain ⟨handed, dropped⟩ := handed_step h s
    obtain ⟨handed', dropped'⟩ := ih (h.step s)
    constructor
    · rw [takings, takenWith_append, ← List.append_assoc, ← handed]
      exact handed'
    · rw [takings, takenWith_append, ← List.append_assoc, ← dropped]
      exact dropped'

theorem takenWith_taken (h : Hop) {s : Step} (inside : s.isOutside = false) :
    takenWith true (h.taken s) = (h.taken s).map Prod.fst := by
  cases s with
  | withdraw call runtime | sweep runtime =>
    have within : runtime = true := by simpa [Step.isOutside] using inside
    simp only [taken, within]
    split <;> simp [Function.comp_def]
  | _ => rfl

/-- Where nobody takes sessions outside a runtime, all that are taken are handed over. -/
theorem takenWith_takings {history : List Step} (inside : ∀ s ∈ history, s.isOutside = false) (h : Hop) :
    takenWith true (h.takings history) = (h.takings history).map Prod.fst := by
  induction history generalizing h with
  | nil => rfl
  | cons s rest ih =>
    obtain ⟨now, later⟩ := List.forall_mem_cons.mp inside
    rw [takings, takenWith_append, List.map_append, takenWith_taken h now, ih later]

/-- Whether a call has registered its session and has yet to do what the flag tells it. -/
def isWatching : Point → Bool
  | .checking | .withdrawing => true
  | _ => false

/-- Once the flag is raised, there is somebody who will take the sessions that are registered: a stop under way,
or a call that has yet to do what the flag tells it. -/
def Watched (h : Hop) : Prop :=
  h.state.stopped = true → h.sessions = [] ∨ 0 < h.stopping ∨ ∃ c ∈ h.calls, isWatching c.1 = true

section

variable {h : Hop} {call : Nat} {old : Point} {next : Endpoint}

theorem mem_place (found : h.calls[call]? = some (old, next)) (point : Point) :
    (point, next) ∈ (h.place call point).calls := by
  apply List.mem_of_getElem?
  rw [getElem?_place, found]
  simp

theorem watching_place (found : h.calls[call]? = some (old, next)) (idle : isWatching old = false)
    (point : Point) (watching : ∃ c ∈ h.calls, isWatching c.1 = true) :
    ∃ c ∈ (h.place call point).calls, isWatching c.1 = true := by
  obtain ⟨c, member, watches⟩ := watching
  obtain ⟨i, at_i⟩ := List.getElem?_of_mem member
  refine ⟨c, ?_, watches⟩
  apply List.mem_of_getElem? (i := i)
  rw [getElem?_place, at_i, Option.map_some]
  by_cases same : call = i
  · subst same
    cases found.symm.trans at_i
    rw [idle] at watches
    cases watches
  · simp [same]

theorem Watched.place (watched : h.Watched) (found : h.calls[call]? = some (old, next))
    (idle : isWatching old = false) (point : Point) : (h.place call point).Watched := by
  intro stopped
  rcases watched stopped with empty | stopping | watching
  · exact .inl empty
  · exact .inr (.inl stopping)
  · exact .inr (.inr (watching_place found idle point watching))

theorem Watched.finish (watched : h.Watched) (found : h.calls[call]? = some (old, next))
    (idle : isWatching old = false) (result : Except Fault Unit) : (h.finish call result).Watched := by
  have settled : ({ h with state := h.state.settle result } : Hop).Watched := by
    intro stopped
    apply watched
    cases result <;> exact stopped
  exact settled.place found idle _

end

theorem Watched.step {h : Hop} (watched : h.Watched) (s : Step) : (h.step s).Watched := by
  cases s with
  | call next =>
    intro stopped
    rcases watched stopped with empty | stopping | ⟨c, member, watches⟩
    · exact .inl empty
    · exact .inr (.inl stopping)
    · exact .inr (.inr ⟨c, List.mem_append_left _ member, watches⟩)
  | look call =>
    simp only [Hop.step]
    split
    · next errand next found => split <;> exact watched.place found rfl _
    · exact watched
  | wait call =>
    simp only [Hop.step]
    split
    · next found => exact watched.place found rfl _
    · exact watched
  | succeed call =>
    simp only [Hop.step]
    split
    · next found => exact watched.place found rfl _
    · next found => exact watched.finish found rfl _
    · exact watched
  | fail call failure =>
    simp only [Hop.step]
    split
    · next found => exact watched.finish found rfl _
    · exact watched
  | register call =>
    simp only [Hop.step]
    split
    · next found => exact fun _ => .inr (.inr ⟨_, mem_place found .checking, rfl⟩)
    · exact watched
  | check call =>
    simp only [Hop.step]
    split
    · next found =>
      intro stopped
      rw [state_place] at stopped
      rw [stopped, if_pos rfl]
      exact .inr (.inr ⟨_, mem_place found .withdrawing, rfl⟩)
    · exact watched
  | withdraw call runtime =>
    simp only [Hop.step]
    split
    · exact fun _ => .inl rfl
    · exact watched
  | raise => exact fun _ => .inr (.inl (Nat.succ_pos _))
  | sweep runtime =>
    simp only [Hop.step]
    split
    · exact watched
    · exact fun _ => .inl rfl

theorem Watched.run {h : Hop} (watched : h.Watched) (history : List Step) : (h.run history).Watched := by
  induction history generalizing h with
  | nil => exact watched
  | cons s rest ih => exact ih (watched.step s)

/-- Only a stop raises the flag, and nothing lowers it. -/
theorem stopped_step (h : Hop) (s : Step) :
    (h.step s).state.stopped = true ↔ h.state.stopped = true ∨ s = .raise := by
  have settled (result : Except Fault Unit) : (h.state.settle result).stopped = h.state.stopped := by
    cases result <;> rfl
  cases s with
  | raise => simp [step, HopState.stop]
  | call next => simp [step]
  | sweep runtime =>
    simp only [step]
    split <;> simp [giveUp]
  | look call | wait call | succeed call | fail call failure | register call | check call | withdraw call runtime =>
    simp only [step]
    repeat' split
    all_goals simp [finish, giveUp, settled]

theorem stopped_run (h : Hop) (history : List Step) :
    (h.run history).state.stopped = true ↔ h.state.stopped = true ∨ .raise ∈ history := by
  induction history generalizing h with
  | nil => simp [run]
  | cons s rest ih =>
    change ((h.step s).run rest).state.stopped = true ↔ _
    rw [ih, stopped_step, List.mem_cons, or_assoc, @eq_comm _ s]

def isDone : Point → Bool
  | .done _ => true
  | _ => false

/-- Every stop has taken the sessions, and every call has ended. -/
structure Finished (h : Hop) : Prop where
  stops : h.stopping = 0
  calls : ∀ c ∈ h.calls, isDone c.1 = true

theorem Finished.not_watching {h : Hop} (finished : h.Finished) :
    ¬ ∃ c ∈ h.calls, isWatching c.1 = true := by
  rintro ⟨c, member, watches⟩
  have done := finished.calls c member
  unfold isWatching at watches
  split at watches
  · next checking => simp [checking, isDone] at done
  · next withdrawing => simp [withdrawing, isDone] at done
  · cases watches

/-- However calls and stops are mixed, once a stop has begun and everything has come to its end, no session is
registered any more, and all that ever were have been taken, each once and in order: those that were taken inside
a runtime have been handed over for disconnection, and the others dropped. -/
theorem finished_disconnected (host : JumpHost) (history : List Step) (raised : .raise ∈ history)
    (finished : (run { host } history).Finished) :
    let takings := ({ host } : Hop).takings history
    (run { host } history).sessions = [] ∧
      takings.map Prod.fst = ({ host } : Hop).registrations history ∧
      (run { host } history).disconnected = takenWith true takings ∧
      (run { host } history).dropped = takenWith false takings ∧
      ((∀ s ∈ history, s.isOutside = false) →
        (run { host } history).disconnected = ({ host } : Hop).registrations history) := by
  intro takings
  have watched : (run { host } history).Watched := Watched.run (fun _ => .inl rfl) history
  have none_left : (run { host } history).sessions = [] := by
    rcases watched ((stopped_run _ _).mpr (.inr raised)) with empty | stopping | watching
    · exact empty
    · exact absurd finished.stops (Nat.ne_of_gt stopping)
    · exact absurd watching finished.not_watching
  have taken := takings_run { host } history
  rw [none_left, List.append_nil] at taken
  obtain ⟨handed, dropped⟩ := handed_run { host } history
  refine ⟨none_left, taken, handed, dropped, fun inside => ?_⟩
  rw [handed, takenWith_takings inside]
  exact taken

/-- Two calls: the stop takes the session of the first inside a runtime, and the second registers its own only after
that and takes it outside one. -/
theorem finished_disconnected_late :
    let bastion : JumpHost := { host := "bastion", username := "deploy", privateKey := "key" }
    let history : List Step :=
      [.call ⟨"db", 5432⟩, .call ⟨"db", 5432⟩, .look 0, .look 1, .succeed 0, .succeed 1, .register 0, .check 0,
        .raise, .sweep true, .register 1, .check 1, .withdraw 1 false, .wait 0, .look 0]
    .raise ∈ history ∧ (run { host := bastion } history).Finished ∧
      (run { host := bastion } history).sessions = [] ∧
      (run { host := bastion } history).disconnected = [0] ∧ (run { host := bastion } history).dropped = [1] := by
  intro bastion history
  have raised : .raise ∈ history := by simp [history]
  have finished : (run { host := bastion } history).Finished := ⟨by decide +kernel, by decide +kernel⟩
  have taken : ({ host := bastion } : Hop).takings history = [(0, true), (1, false)] := by decide +kernel
  obtain ⟨none_left, -, handed, dropped, -⟩ := finished_disconnected bastion history raised finished
  rw [taken] at handed dropped
  exact ⟨raised, finished, none_left, handed, dropped⟩

/-- A stop that comes from a thread without a runtime drops the session that was registered, and hands over
nothing. -/
theorem stop_outside_runtime :
    let bastion : JumpHost := { host := "bastion", username := "deploy", privateKey := "key" }
    let history : List Step :=
      [.call ⟨"db", 5432⟩, .look 0, .succeed 0, .register 0, .check 0, .succeed 0, .raise, .sweep false]
    .raise ∈ history ∧ (run { host := bastion } history).Finished ∧
      ({ host := bastion } : Hop).registrations history = [0] ∧
      (run { host := bastion } history).disconnected = [] ∧ (run { host := bastion } history).dropped = [0] := by
  intro bastion history
  exact ⟨by simp [history], ⟨by decide +kernel, by decide +kernel⟩, by decide +kernel, by decide +kernel,
    by decide +kernel⟩

end Passage.Ssh.Hop
