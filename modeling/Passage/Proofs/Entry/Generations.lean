import Passage.Proofs.Entry.Record

namespace Passage

namespace Listener

namespace Session

variable (s : Session)

@[simp]
theorem generation_read : s.read.generation = s.generation := by
  unfold read
  split
  · split
    · rfl
    · split
      · split <;> rfl
      · rfl
  · rfl
  · rfl

@[simp]
theorem generation_chainUp : s.chainUp.generation = s.generation := by
  unfold chainUp
  split <;> rfl

@[simp]
theorem generation_chainDown (fault : Fault) : (s.chainDown fault).generation = s.generation := by
  unfold chainDown
  split <;> rfl

@[simp]
theorem generation_relayEnds : s.relayEnds.generation = s.generation := by
  unfold relayEnds
  split <;> rfl

@[simp]
theorem generation_cancel : s.cancel.generation = s.generation := by
  unfold cancel
  split <;> rfl

@[simp]
theorem generation_send (data : List UInt8) : (s.send data).generation = s.generation := by
  unfold send
  split <;> rfl

@[simp]
theorem generation_close : s.close.generation = s.generation := by
  unfold close
  split <;> rfl

end Session

/-- The generations of the sessions, in the order in which their clients were accepted. -/
def dates (l : Listener) : List Nat :=
  l.sessions.map (·.generation)

/-- No session belongs to a generation to come. -/
def Dated (l : Listener) : Prop :=
  ∀ date ∈ l.dates, date ≤ l.generation

/-- How an entry grows older. -/
structure Ages (l l' : Listener) : Prop where
  generation : l.generation ≤ l'.generation
  stopped : l.stopped = true → l'.stopped = true
  dates : l.dates <+: l'.dates
  dated : l.Dated → l'.Dated

namespace Ages

variable {l l' l'' : Listener}

theorem of_dates (generation : l.generation ≤ l'.generation)
    (stopped : l.stopped = true → l'.stopped = true) (same : l'.dates = l.dates) : Ages l l' where
  generation := generation
  stopped := stopped
  dates := same ▸ List.prefix_rfl
  dated known date hd := Nat.le_trans (known date (same ▸ hd)) generation

theorem refl (l : Listener) : Ages l l :=
  of_dates (Nat.le_refl _) id rfl

theorem trans (h : Ages l l') (h' : Ages l' l'') : Ages l l'' where
  generation := Nat.le_trans h.generation h'.generation
  stopped := h'.stopped ∘ h.stopped
  dates := h.dates.trans h'.dates
  dated := h'.dated ∘ h.dated

theorem cancelled (h : Ages l l') {i : Nat} {s : Session} (hs : l.sessions[i]? = some s)
    (told : l.isCancelled s = true) :
    ∃ s', l'.sessions[i]? = some s' ∧ l'.isCancelled s' = true := by
  have date : l.dates[i]? = some s.generation := by
    rw [Listener.dates, List.getElem?_map, hs]
    rfl
  obtain ⟨later, grown⟩ := h.dates
  have kept : l'.dates[i]? = some s.generation := by
    rw [← grown, List.getElem?_append_left (List.getElem?_eq_some_iff.mp date).1, date]
  rw [Listener.dates, List.getElem?_map, Option.map_eq_some_iff] at kept
  obtain ⟨s', hs', same⟩ := kept
  refine ⟨s', hs', ?_⟩
  rw [isCancelled, Bool.or_eq_true, decide_eq_true_iff] at told ⊢
  rcases told with stopped | before
  · exact .inl (h.stopped stopped)
  · exact .inr (same ▸ Nat.lt_of_lt_of_le before h.generation)

end Ages

theorem dates_change (l : Listener) (i : Nat) {f : Session → Session}
    (same : ∀ s, (f s).generation = s.generation) : (l.change i f).dates = l.dates := by
  apply List.ext_getElem?
  intro j
  rw [dates, List.getElem?_map, getElem?_change, dates, List.getElem?_map, Option.map_map]
  congr 1
  funext s
  dsimp only [Function.comp]
  split
  · exact same s
  · rfl

theorem ages_change (l : Listener) (i : Nat) {f : Session → Session}
    (same : ∀ s, (f s).generation = s.generation) : Ages l (l.change i f) :=
  .of_dates (Nat.le_refl _) id (l.dates_change i same)

theorem ages_accept (l : Listener) : Ages l (l.step .accept) := by
  have more : (l.step .accept).dates = l.dates ++ [l.generation] := by
    simp [dates, step]
  refine ⟨Nat.le_refl _, id, more ▸ List.prefix_append _ _, ?_⟩
  intro known date hd
  rw [more] at hd
  rcases List.mem_append.mp hd with old | new
  · exact known date old
  · exact Nat.le_of_eq (List.mem_singleton.mp new)

theorem ages_record (l : Listener) (i : Nat) : Ages l (l.record i) := by
  unfold record
  split
  · split
    · rename_i fault _
      refine .of_dates (Nat.le_refl _) id ?_
      exact dates_change { l with slot := l.slot.or (some ⟨i, fault⟩) } i fun _ => rfl
    · exact .refl l
  · exact .refl l

theorem step_ages (l : Listener) (e : Event) : Ages l (l.step e) := by
  cases e with
  | begin => exact .of_dates (Nat.le_refl _) id rfl
  | take => exact .of_dates (Nat.le_refl _) id rfl
  | accept => exact l.ages_accept
  | dropSessions => exact .of_dates (Nat.le_succ _) id rfl
  | stop => exact .of_dates (Nat.le_refl _) (fun _ => rfl) rfl
  | send i data => exact l.ages_change i fun s => s.generation_send data
  | hangUp i => exact l.ages_change i fun _ => rfl
  | read i => exact l.ages_change i Session.generation_read
  | chainUp i => exact l.ages_change i Session.generation_chainUp
  | chainDown i fault => exact l.ages_change i fun s => s.generation_chainDown fault
  | relayEnds i => exact l.ages_change i Session.generation_relayEnds
  | notice i =>
    apply l.ages_change i
    intro s
    split
    · exact s.generation_cancel
    · rfl
  | record i => exact l.ages_record i
  | close i => exact l.ages_change i Session.generation_close

theorem Dated.dropped {l : Listener} (dated : l.Dated) {s : Session} (hs : s ∈ l.sessions) :
    (l.step .dropSessions).isCancelled s = true := by
  have known : s.generation ≤ l.generation := dated _ (List.mem_map_of_mem hs)
  rw [isCancelled, Bool.or_eq_true, decide_eq_true_iff]
  exact .inr (Nat.lt_succ_of_le known)

end Listener

namespace Negotiation.Transit

open Listener

theorem step_ages (t : Transit) (m : Move) : Ages t.entry (t.step m).entry := by
  cases m with
  | begin => exact t.entry.step_ages .begin
  | succeed => exact .refl t.entry
  | stop => exact t.entry.step_ages .stop
  | giveUp =>
    simp only [step]
    split
    · exact t.entry.step_ages .dropSessions
    · exact .refl t.entry
  | fail driver =>
    simp only [step]
    split
    · exact t.entry.step_ages .take
    · exact .refl t.entry
  | meanwhile event =>
    simp only [step]
    split
    · exact t.entry.step_ages event
    · exact .refl t.entry

theorem run_ages (t : Transit) (history : List Move) : Ages t.entry (t.run history).entry := by
  induction history generalizing t with
  | nil => exact .refl t.entry
  | cons m rest ih => exact (t.step_ages m).trans (ih (t.step m))

def Reached (t : Transit) : Prop :=
  ∃ history, t = run {} history

namespace Reached

variable {t : Transit}

theorem run (reached : t.Reached) (moves : List Move) : (t.run moves).Reached := by
  obtain ⟨history, rfl⟩ := reached
  exact ⟨history ++ moves, (run_append _ _ _).symm⟩

theorem faithful (reached : t.Reached) : t.Faithful := by
  obtain ⟨history, rfl⟩ := reached
  exact run_faithful history

theorem dated (reached : t.Reached) : t.entry.Dated := by
  obtain ⟨history, rfl⟩ := reached
  apply (run_ages {} history).dated
  intro date hd
  cases hd

end Reached

end Negotiation.Transit
end Passage
