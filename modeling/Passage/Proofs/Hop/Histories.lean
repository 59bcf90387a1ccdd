namespace Passage.History

variable {σ ε β : Type} (step : σ → ε → σ) (find : σ → ε → Option β)

/-- What the steps of a history bring up, in order. -/
def findings (s : σ) : List ε → List β
  | [] => []
  | e :: rest => (find s e).toList ++ findings (step s e) rest

variable {step find}

theorem findings_append (s : σ) (before after : List ε) :
    findings step find s (before ++ after) =
      findings step find s before ++ findings step find (before.foldl step s) after := by
  induction before generalizing s with
  | nil => rfl
  | cons e rest ih => rw [List.cons_append, findings, findings, ih, List.append_assoc, List.foldl_cons]

theorem findings_eq_nil {s : σ} {history : List ε} (nothing : ∀ s, ∀ e ∈ history, find s e = none) :
    findings step find s history = [] := by
  induction history generalizing s with
  | nil => rfl
  | cons e rest ih =>
    obtain ⟨now, later⟩ := List.forall_mem_cons.mp fun e member s => nothing s e member
    rw [findings, now s, ih fun s e member => later e member s]
    rfl

/-- A slot that takes what a step brings up, unless it is taken. -/
theorem foldl_filled (slot : σ → Option β) (filled : ∀ s e, slot (step s e) = (slot s).or (find s e))
    (s : σ) (history : List ε) :
    slot (history.foldl step s) = (slot s).or (findings step find s history).head? := by
  induction history generalizing s with
  | nil => exact Option.or_none.symm
  | cons e rest ih =>
    rw [List.foldl_cons, ih, filled, findings, List.head?_append, Option.head?_toList, Option.or_assoc]

theorem findings_or_eq_nil_iff {find' : σ → ε → Option β} {s : σ} {history : List ε} :
    findings step (fun s e => (find s e).or (find' s e)) s history = [] ↔
      findings step find s history = [] ∧ findings step find' s history = [] := by
  induction history generalizing s with
  | nil => simp [findings]
  | cons e rest ih =>
    simp only [findings, List.append_eq_nil_iff, ih, Option.toList_eq_nil_iff, Option.or_eq_none_iff]
    exact and_and_and_comm

end Passage.History
