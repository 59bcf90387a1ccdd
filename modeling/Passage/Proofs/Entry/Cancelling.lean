import Passage.Listener.Tokens
import Passage.Proofs.Entry.Generations

namespace Passage

namespace Tokens

/-- The tokens of an entry in the given generation: its own, and one for each generation, all but the last fired. -/
def layout (stopped : Bool) (generation : Nat) : Tokens :=
  { fired := stopped } :: (List.replicate generation { above := [0], fired := true } ++ [{ above := [0] }])

variable {stopped : Bool} {generation : Nat}

@[simp]
theorem length_layout : (layout stopped generation).length = generation + 2 := by
  simp [layout]

theorem child_fire_layout :
    ((layout stopped generation).fire (generation + 1)).child 0 = layout stopped (generation + 1) := by
  have fired : (layout stopped generation).fire (generation + 1) =
      { fired := stopped } :: List.replicate (generation + 1) { above := [0], fired := true } := by
    rw [layout, fire, List.modify_succ_cons, List.modify_eq_take_drop, List.replicate_succ']
    simp
  rw [fired, child, layout]
  rfl

theorem isCancelled_layout {g : Nat} (known : g ≤ generation) :
    (layout stopped generation).isCancelled (g + 1) = (stopped || decide (g < generation)) := by
  have root : (layout stopped generation).isFired 0 = stopped := rfl
  rcases Nat.lt_or_eq_of_le known with ended | rfl
  · have found : (layout stopped generation)[g + 1]? = some { above := [0], fired := true } := by
      simp [layout, List.getElem?_append, ended]
    rw [isCancelled, found]
    simp [ended]
  · have found : (layout stopped g)[g + 1]? = some { above := [0] } := by
      simp [layout]
    rw [isCancelled, found]
    simp [root]

end Tokens

namespace Listener

variable {l : Listener} {k : Keys}

theorem run_ages (l : Listener) (history : List Event) : Ages l (l.run history) := by
  induction history generalizing l with
  | nil => exact .refl l
  | cons e rest ih => exact (l.step_ages e).trans (ih (l.step e))

theorem run_dated (history : List Event) : (run {} history).Dated :=
  (run_ages {} history).dated nofun

theorem stopped_step (l : Listener) (e : Event) :
    (l.step e).stopped = true ↔ l.stopped = true ∨ e = .stop := by
  cases e with
  | stop => simp [step]
  | record i =>
    simp only [step, record]
    repeat' split
    all_goals simp [change]
  | _ => simp [step, change]

theorem stopped_run (l : Listener) (history : List Event) :
    (l.run history).stopped = true ↔ l.stopped = true ∨ .stop ∈ history := by
  induction history generalizing l with
  | nil => simp [run]
  | cons e rest ih =>
    change ((l.step e).run rest).stopped = true ↔ _
    rw [ih, stopped_step, List.mem_cons, or_assoc, @eq_comm _ e]

theorem generation_step (l : Listener) (e : Event) :
    l.generation < (l.step e).generation ↔ e = .dropSessions := by
  cases e with
  | dropSessions => simp [step]
  | record i =>
    simp only [step, record]
    repeat' split
    all_goals simp [change]
  | _ => simp [step, change]

theorem generation_run (l : Listener) (history : List Event) :
    l.generation < (l.run history).generation ↔ .dropSessions ∈ history := by
  induction history generalizing l with
  | nil => simp [run]
  | cons e rest ih =>
    have first := (l.step_ages e).generation
    have later := (run_ages (l.step e) rest).generation
    have split : l.generation < ((l.step e).run rest).generation ↔
        l.generation < (l.step e).generation ∨
          (l.step e).generation < ((l.step e).run rest).generation := by omega
    change l.generation < ((l.step e).run rest).generation ↔ _
    rw [split, generation_step, ih, List.mem_cons, @eq_comm _ e]

/-- The tokens say the same as the generations. -/
structure Agrees (k : Keys) (l : Listener) : Prop where
  stopped : k.stopped = l.stopped
  tokens : k.tokens = Tokens.layout l.stopped l.generation
  current : k.current = l.generation + 1
  given : k.given = l.dates.map (· + 1)

theorem Agrees.same {l' : Listener} (agrees : Agrees k l) (stopped : l'.stopped = l.stopped)
    (generation : l'.generation = l.generation) (dates : l'.dates = l.dates) : Agrees k l' where
  stopped := agrees.stopped.trans stopped.symm
  tokens := by rw [agrees.tokens, stopped, generation]
  current := by rw [agrees.current, generation]
  given := by rw [agrees.given, dates]

theorem Agrees.change (agrees : Agrees k l) (i : Nat) {f : Session → Session}
    (same : ∀ s, (f s).generation = s.generation) : Agrees k (l.change i f) :=
  agrees.same rfl rfl (l.dates_change i same)

theorem Agrees.step (agrees : Agrees k l) (e : Event) : Agrees (k.step e) (l.step e) := by
  cases e with
  | accept =>
    refine ⟨agrees.stopped, agrees.tokens, agrees.current, ?_⟩
    simp [Keys.step, Listener.step, dates, agrees.given, agrees.current]
  | dropSessions =>
    refine ⟨agrees.stopped, ?_, ?_, agrees.given⟩
    · simp only [Keys.step, Listener.step, agrees.tokens, agrees.current, Tokens.child_fire_layout]
    · simp [Keys.step, Listener.step, agrees.tokens]
  | stop =>
    cases already : k.stopped with
    | true =>
      have still : l.stopped = true := agrees.stopped.symm.trans already
      simp only [Keys.step, already, if_true]
      exact agrees.same still.symm rfl rfl
    | false =>
      simp only [Keys.step, already, Bool.false_eq_true, if_false]
      exact ⟨rfl, by rw [agrees.tokens]; rfl, agrees.current, agrees.given⟩
  | begin => exact agrees.same rfl rfl rfl
  | take => exact agrees.same rfl rfl rfl
  | send i data => exact agrees.change i fun s => s.generation_send data
  | hangUp i => exact agrees.change i fun _ => rfl
  | read i => exact agrees.change i Session.generation_read
  | chainUp i => exact agrees.change i Session.generation_chainUp
  | chainDown i fault => exact agrees.change i fun s => s.generation_chainDown fault
  | relayEnds i => exact agrees.change i Session.generation_relayEnds
  | notice i =>
    apply agrees.change i
    intro s
    split
    · exact s.generation_cancel
    · rfl
  | record i =>
    simp only [Listener.step, record]
    split
    · split
      · next fault _ =>
        have kept : Agrees k { l with slot := l.slot.or (some ⟨i, fault⟩) } := agrees.same rfl rfl rfl
        exact kept.change i fun _ => rfl
      · exact agrees
    · exact agrees
  | close i => exact agrees.change i Session.generation_close

theorem Agrees.run (agrees : Agrees k l) (history : List Event) :
    Agrees (k.run history) (l.run history) := by
  induction history generalizing k l with
  | nil => exact agrees
  | cons e rest ih => exact ih (agrees.step e)

theorem agrees_run (history : List Event) : Agrees (Keys.run {} history) (run {} history) :=
  Agrees.run ⟨rfl, rfl, rfl, rfl⟩ history

/-- A session was told to end by its token exactly if it was told by its generation. -/
theorem Agrees.isTold_eq (agrees : Agrees k l) (dated : l.Dated) (i : Nat) :
    k.isTold i = l.sessions[i]?.any l.isCancelled := by
  rw [Keys.isTold, agrees.given, List.getElem?_map, dates, List.getElem?_map]
  cases found : l.sessions[i]? with
  | none => rfl
  | some s =>
    have known : s.generation ≤ l.generation := dated _ (List.mem_map_of_mem (List.mem_of_getElem? found))
    rw [agrees.tokens]
    exact Tokens.isCancelled_layout known

theorem dates_accepted (before after : List Event) :
    (run {} (before ++ .accept :: after)).dates[(run {} before).sessions.length]? =
      some (run {} before).generation := by
  have then_dates : ((run {} before).step .accept).dates = (run {} before).dates ++ [(run {} before).generation] := by
    simp [dates, step]
  obtain ⟨later, grown⟩ := (run_ages ((run {} before).step .accept) after).dates
  rw [run_append]
  change (((run {} before).step .accept).run after).dates[_]? = _
  rw [← grown, then_dates]
  simp [dates]

theorem told_accepted_iff (before after : List Event) :
    (Keys.run {} (before ++ .accept :: after)).isTold (run {} before).sessions.length = true ↔
      .dropSessions ∈ after ∨ .stop ∈ after ∨ .stop ∈ before := by
  have date := dates_accepted before after
  rw [dates, List.getElem?_map, Option.map_eq_some_iff] at date
  obtain ⟨s, found, date⟩ := date
  have drops : (run {} before).generation < ((run {} before).run (.accept :: after)).generation ↔
      .dropSessions ∈ after := by
    simp [generation_run]
  have stops : Event.stop ∈ before ++ .accept :: after ↔ .stop ∈ after ∨ .stop ∈ before := by
    simp [or_comm]
  rw [(agrees_run _).isTold_eq (run_dated _), found, Option.any_some, isCancelled, Bool.or_eq_true, date,
    decide_eq_true_iff, stopped_run, stops, run_append, drops, or_comm]
  simp

theorem told_dropped_iff (history : List Event) (i : Nat) :
    (Keys.run {} (history ++ [.dropSessions])).isTold i = true ↔ i < (run {} history).sessions.length := by
  have same : (run {} (history ++ [.dropSessions])).sessions = (run {} history).sessions := by
    rw [run_append]
    rfl
  rw [(agrees_run _).isTold_eq (run_dated _), same]
  constructor
  · intro told
    apply Nat.lt_of_not_le
    intro beyond
    rw [List.getElem?_eq_none beyond] at told
    cases told
  · intro there
    rw [List.getElem?_eq_getElem there, Option.any_some, run_append]
    exact (run_dated history).dropped (List.getElem_mem there)

theorem told_of_stop {history : List Event} (stop : .stop ∈ history) {i : Nat}
    (there : i < (run {} history).sessions.length) : (Keys.run {} history).isTold i = true := by
  have stopped : (run {} history).stopped = true := (stopped_run _ _).mpr (.inr stop)
  rw [(agrees_run history).isTold_eq (run_dated history), List.getElem?_eq_getElem there]
  simp [isCancelled, stopped]

/-- A stop is the last: another one changes nothing. -/
theorem stop_again {history : List Event} (stop : .stop ∈ history) :
    (Keys.run {} history).step .stop = Keys.run {} history ∧ (run {} history).step .stop = run {} history := by
  have stopped : (run {} history).stopped = true := (stopped_run _ _).mpr (.inr stop)
  constructor
  · rw [Keys.step, if_pos ((agrees_run history).stopped.trans stopped)]
  · rw [step, ← stopped]

/-- A session was told to end exactly if a stop or the end of its generation came after its client was accepted,
or a stop before. So the end of a generation tells the sessions that there are and none to come, and a stop tells
all that there ever are, once and for all. Counting generations says the same. -/
theorem told_iff :
    (∀ before after : List Event,
      (Keys.run {} (before ++ .accept :: after)).isTold (run {} before).sessions.length = true ↔
        .dropSessions ∈ after ∨ .stop ∈ after ∨ .stop ∈ before) ∧
    (∀ (history : List Event) (i : Nat),
      (Keys.run {} (history ++ [.dropSessions])).isTold i = true ↔ i < (run {} history).sessions.length) ∧
    (∀ history : List Event, .stop ∈ history →
      (∀ i < (run {} history).sessions.length, (Keys.run {} history).isTold i = true) ∧
      (Keys.run {} history).step .stop = Keys.run {} history ∧
      (run {} history).step .stop = run {} history) ∧
    (∀ (history : List Event) (i : Nat),
      (Keys.run {} history).isTold i = (run {} history).sessions[i]?.any (run {} history).isCancelled) :=
  ⟨told_accepted_iff, told_dropped_iff, fun _ stop => ⟨fun _ => told_of_stop stop, stop_again stop⟩,
    fun history => (agrees_run history).isTold_eq (run_dated history)⟩

/-- The second client comes after the first generation has ended, and after the stop comes a third. -/
theorem told_iff_late :
    let history : List Event := [.accept, .dropSessions, .accept, .stop, .accept]
    (Keys.run {} (history.take 3)).isTold 0 = true ∧ (Keys.run {} (history.take 3)).isTold 1 = false ∧
      .stop ∈ history ∧ ∀ i < 3, (Keys.run {} history).isTold i = true := by
  intro history
  have stop : .stop ∈ history := by simp [history]
  have second : ¬ (Keys.run {} (history.take 3)).isTold 1 = true := by
    intro told
    have later := (told_iff.1 [.accept, .dropSessions] []).mp told
    simp at later
  exact ⟨(told_iff.1 [] [.dropSessions, .accept]).mpr (by simp), Bool.eq_false_iff.mpr second, stop,
    (told_iff.2.2.1 history stop).1⟩

end Listener
end Passage
