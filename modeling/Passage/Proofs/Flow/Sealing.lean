import Passage.Flow.Pipe

namespace Passage.Flow

variable {σ : Type}

namespace Device

namespace Event

/-- What happens to a guarded stream when this happens to the stream inside. -/
def guarded : Event σ → Event (Guarded σ)
  | .poll task op => .poll task op
  | .stir change => .stir fun g => { g with inner := change g.inner }

/-- Who polls for something that a cancellation puts an end to. -/
def looker? : Event σ → Option TaskId
  | .poll task op => if op = .shutdown then none else some task
  | .stir _ => none

/-- Whether the stream inside sees anything of the event when it is sealed. -/
def reaches : Event σ → Bool
  | .poll _ op => op = .shutdown
  | .stir _ => true

end Event

/-- A task waits for an operation: the stream had no answer yet when it was polled, and nobody else has looked for
a cancellation since. -/
def Awaits (device : Device σ) (s : σ) (events : List (Event σ)) (task : TaskId) (op : Operation) : Prop :=
  ∃ early late, events = early ++ .poll task op :: late ∧
    (device task (device.run s early).2 op).1 = .pending ∧
    ∀ event ∈ late, ∀ other, event.looker? = some other → other = task

/-- Whoever waits for anything but a shutdown was the last to look for a cancellation. -/
theorem Awaits.getLast?_lookers {device : Device σ} {s : σ} {events : List (Event σ)} {task : TaskId}
    {op : Operation} (waits : device.Awaits s events task op) (looks : op ≠ .shutdown) :
    (events.filterMap Event.looker?).getLast? = some task := by
  obtain ⟨early, late, rfl, -, own⟩ := waits
  have looked : (Event.poll task op : Event σ).looker? = some task := if_neg looks
  rw [List.filterMap_append, List.filterMap_cons_some looked, List.getLast?_append, List.getLast?_cons,
    Option.some_or]
  cases last : (late.filterMap Event.looker?).getLast? with
  | none => rfl
  | some other =>
    obtain ⟨event, held, looker⟩ := List.mem_filterMap.mp (List.mem_of_getLast? last)
    rw [own event held other looker]
    rfl

end Device

namespace Guarded

open Device

variable (inner : Device σ) {g : Guarded σ}

/-- An operation is passed on, and its task will be woken by the cancellation unless it is a shutdown. -/
theorem device_of_open (running : g.cancelled = false) (task : TaskId) (op : Operation) :
    device inner task g op =
      ((inner task g.inner op).1,
        { g with
          inner := (inner task g.inner op).2
          waiter := ((Event.poll task op : Event σ).looker?).or g.waiter }) := by
  by_cases h : op = .shutdown <;> simp [device, look, refuses, pass, Event.looker?, h, running]

theorem run_of_open (running : g.cancelled = false) (events : List (Event σ)) :
    (device inner).run g (events.map .guarded) =
      ((inner.run g.inner events).1,
        { g with
          inner := (inner.run g.inner events).2
          waiter := (events.filterMap Event.looker?).getLast?.or g.waiter }) := by
  induction events generalizing g with
  | nil => rfl
  | cons event events ih =>
    cases event with
    | stir change => exact ih (g := { g with inner := change g.inner }) running
    | poll task op =>
      have passed := device_of_open inner running task op
      have later := ih (g := (device inner task g op).2) (by rw [passed]; exact running)
      rw [List.map_cons, Event.guarded, run_poll, run_poll, later, passed]
      cases looker : (Event.poll task op : Event σ).looker? with
      | none => simp [List.filterMap_cons_none looker]
      | some other => simp [List.filterMap_cons_some looker, List.getLast?_cons]

/-- A cancellation in the middle of a poll comes to the same as one that follows the poll. -/
theorem interrupted_of_open (running : g.cancelled = false) (task : TaskId) (op : Operation) :
    g.interrupted inner task op =
      ((device inner task g op).1, (device inner task g op).2.cancel) := by
  by_cases h : op = .shutdown <;> simp [interrupted, device, look, refuses, pass, cancel, h, running]

theorem device_of_cancelled (sealed : g.cancelled = true) (task : TaskId) {op : Operation}
    (looks : op ≠ .shutdown) : device inner task g op = (.failed tunnelStopped, g) := by
  simp [device, look, refuses, looks, sealed]

theorem device_shutdown (task : TaskId) :
    device inner task g .shutdown =
      ((inner task g.inner .shutdown).1, { g with inner := (inner task g.inner .shutdown).2 }) := by
  simp [device, look, refuses, pass]

/-- The stream inside is polled for shutdowns alone. -/
theorem run_of_cancelled (sealed : g.cancelled = true) (events : List (Event σ)) :
    ((device inner).run g (events.map .guarded)).1.filter (·.1 = .shutdown) =
        (inner.run g.inner (events.filter Event.reaches)).1 ∧
      ((device inner).run g (events.map .guarded)).2 =
        { g with inner := (inner.run g.inner (events.filter Event.reaches)).2 } := by
  induction events generalizing g with
  | nil => exact ⟨rfl, rfl⟩
  | cons event events ih =>
    cases event with
    | stir change => exact ih (g := { g with inner := change g.inner }) sealed
    | poll task op =>
      rw [List.map_cons, Event.guarded, run_poll]
      by_cases shut : op = .shutdown
      · subst shut
        rw [device_shutdown, List.filter_cons_of_pos rfl, List.filter_cons_of_pos rfl, run_poll]
        obtain ⟨answers, state⟩ := ih (g := { g with inner := (inner task g.inner .shutdown).2 }) sealed
        exact ⟨congrArg _ answers, state⟩
      · rw [device_of_cancelled inner sealed task shut, List.filter_cons_of_neg (by simpa using shut),
          List.filter_cons_of_neg (by simpa [Event.reaches] using shut)]
        exact ih sealed

theorem failed_of_cancelled (sealed : g.cancelled = true) (events : List (Event σ)) {op : Operation}
    {answer : Answer} (polled : (op, answer) ∈ ((device inner).run g (events.map .guarded)).1)
    (looks : op ≠ .shutdown) : answer = .failed tunnelStopped := by
  induction events generalizing g with
  | nil => cases polled
  | cons event events ih =>
    cases event with
    | stir change => exact ih (g := { g with inner := change g.inner }) sealed polled
    | poll task first =>
      rw [List.map_cons, Event.guarded, run_poll, List.mem_cons] at polled
      by_cases shut : first = .shutdown
      · subst shut
        rw [device_shutdown] at polled
        rcases polled with same | later
        · exact absurd (congrArg Prod.fst same) looks
        · exact ih (g := { g with inner := (inner task g.inner .shutdown).2 }) sealed later
      · rw [device_of_cancelled inner sealed task shut] at polled
        rcases polled with same | later
        · exact congrArg Prod.snd same
        · exact ih sealed later

/-- Until it is cancelled, a guarded stream answers as the stream inside does and leaves it as it would be. The
cancellation wakes the task that was the last to look for it, so one that waits for anything but a shutdown unless
another has looked since. From then on all else fails, and the stream inside has seen nothing but shutdowns and what came to it from elsewhere. A
cancellation in the middle of a poll comes to the same as one that follows the poll. -/
theorem transparent_then_sealed (s : σ) (before after : List (Event σ)) :
    let bare := inner.run s before
    let opened := (device inner).run { inner := s } (before.map .guarded)
    let cut := opened.2.cancel
    let sealed := (device inner).run cut.2 (after.map .guarded)
    (opened.1 = bare.1 ∧ opened.2.inner = bare.2) ∧
      (∀ task op, opened.2.interrupted inner task op =
        ((device inner task opened.2 op).1, (device inner task opened.2 op).2.cancel)) ∧
      cut.1 = (before.filterMap Event.looker?).getLast? ∧
      (∀ task op, inner.Awaits s before task op → op ≠ .shutdown →
        cut.1 = some task ∧
          device inner task sealed.2 op =
            (.failed ⟨.connectionAborted, some "tunnel stopped"⟩, sealed.2)) ∧
      (∀ op answer, (op, answer) ∈ sealed.1 → op ≠ .shutdown →
        answer = .failed ⟨.connectionAborted, some "tunnel stopped"⟩) ∧
      inner.run bare.2 (after.filter Event.reaches) =
        (sealed.1.filter (·.1 = .shutdown), sealed.2.inner) ∧
      sealed.2.cancel = (none, sealed.2) := by
  intro bare opened cut sealed
  have running : ({ inner := s } : Guarded σ).cancelled = false := rfl
  have open_run : opened = _ := run_of_open inner running before
  have still : opened.2.cancelled = false := by rw [open_run]
  have woken : cut.1 = (before.filterMap Event.looker?).getLast? := by
    simp [cut, cancel, open_run]
  have shut : cut.2.cancelled = true := rfl
  have inside : cut.2.inner = bare.2 := by simp [cut, cancel, open_run, bare]
  obtain ⟨answers, state⟩ := run_of_cancelled inner shut after
  rw [inside] at answers state
  have closed : sealed.2.cancelled = true := by rw [state]; exact shut
  refine ⟨by simp [open_run, bare], interrupted_of_open inner still, woken, ?_, ?_, ?_, ?_⟩
  · intro task op waits looks
    exact ⟨woken.trans (waits.getLast?_lookers looks), device_of_cancelled inner closed task looks⟩
  · intro op answer polled looks
    exact failed_of_cancelled inner shut after polled looks
  · rw [answers, state]
  · rw [state]
    rfl

/-- A task reads where nothing has arrived, writes, and is told that the tunnel was stopped, although another has
shut the stream down. -/
theorem transparent_then_sealed_read :
    let before : List (Event Duplex) := [.poll 7 (.read 8), .poll 7 (.write [1]), .poll 9 .shutdown]
    let opened := (device Duplex.device).run { inner := .ofCapacity 4 } (before.map .guarded)
    let cut := opened.2.cancel
    opened.1 = [(.read 8, .pending), (.write [1], .taken 1), (.shutdown, .shut)] ∧
      Duplex.device.Awaits (.ofCapacity 4) before 7 (.read 8) ∧ cut.1 = some 7 ∧
      device Duplex.device 7 cut.2 (.read 8) =
        (.failed ⟨.connectionAborted, some "tunnel stopped"⟩, cut.2) ∧
      (device Duplex.device 7 cut.2 .shutdown).1 = .shut := by
  intro before opened cut
  have waits : Duplex.device.Awaits (.ofCapacity 4) before 7 (.read 8) :=
    ⟨[], [.poll 7 (.write [1]), .poll 9 .shutdown], rfl, rfl, by simp [Event.looker?]⟩
  obtain ⟨⟨answers, -⟩, -, -, told, -⟩ := transparent_then_sealed Duplex.device (.ofCapacity 4) before []
  obtain ⟨woken, fails⟩ := told 7 (.read 8) waits (by decide)
  exact ⟨answers, waits, woken, fails, rfl⟩

/-- One task reads where nothing has arrived, and another writes. The cancellation wakes the writer alone, and the
reader is left waiting. -/
theorem reader_unwoken :
    let before : List (Event Duplex) := [.poll 1 (.read 8), .poll 2 (.write [1])]
    let opened := (device Duplex.device).run { inner := .ofCapacity 4 } (before.map .guarded)
    opened.1 = [(.read 8, .pending), (.write [1], .taken 1)] ∧
      opened.2.cancel.1 = some 2 ∧ opened.2.cancel.2.cancel.1 = none := by
  intro before opened
  exact ⟨rfl, rfl, rfl⟩

end Guarded
end Passage.Flow
