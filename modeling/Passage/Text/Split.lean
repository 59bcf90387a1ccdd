namespace Passage.Text

def splitFirst (c : Char) : List Char → Option (List Char × List Char)
  | [] => none
  | x :: xs =>
    if x = c then some ([], xs)
    else (splitFirst c xs).map fun (before, after) => (x :: before, after)

def splitLast (c : Char) : List Char → Option (List Char × List Char)
  | [] => none
  | x :: xs =>
    match splitLast c xs with
    | some (before, after) => some (x :: before, after)
    | none => if x = c then some ([], xs) else none

/-- The pieces between the occurrences of `c`; a text without `c` is one piece. -/
def splitAll (c : Char) : List Char → List (List Char)
  | [] => [[]]
  | x :: xs =>
    if x = c then [] :: splitAll c xs
    else
      match splitAll c xs with
      | [] => [[x]]
      | piece :: pieces => (x :: piece) :: pieces

def splitAround (sep : List Char) : List Char → Option (List Char × List Char)
  | [] => if sep.isEmpty then some ([], []) else none
  | x :: xs =>
    if sep.isPrefixOf (x :: xs) then some ([], (x :: xs).drop sep.length)
    else (splitAround sep xs).map fun (before, after) => (x :: before, after)

def stripLead (lead text : List Char) : Option (List Char) :=
  if lead.isPrefixOf text then some (text.drop lead.length) else none

def joinWith (sep : String) : List String → String
  | [] => ""
  | [piece] => piece
  | piece :: pieces => piece ++ sep ++ joinWith sep pieces

theorem splitFirst_eq_none_iff {c : Char} {text : List Char} :
    splitFirst c text = none ↔ c ∉ text := by
  induction text with
  | nil => simp [splitFirst]
  | cons x xs ih =>
    by_cases h : x = c
    · simp [splitFirst, h]
    · simp [splitFirst, h, ih, Ne.symm h]

theorem splitFirst_append {c : Char} {before after : List Char} (free : c ∉ before) :
    splitFirst c (before ++ c :: after) = some (before, after) := by
  induction before with
  | nil => simp [splitFirst]
  | cons x xs ih =>
    have : x ≠ c := fun h => free (h ▸ List.mem_cons_self)
    simp [splitFirst, this, ih (fun h => free (List.mem_cons_of_mem x h))]

theorem eq_append_of_splitFirst {c : Char} {text before after : List Char}
    (h : splitFirst c text = some (before, after)) :
    text = before ++ c :: after ∧ c ∉ before := by
  induction text generalizing before with
  | nil => simp [splitFirst] at h
  | cons x xs ih =>
    by_cases hx : x = c
    · simp [splitFirst, hx] at h
      obtain ⟨rfl, rfl⟩ := h
      simp [hx]
    · simp only [splitFirst, hx, if_false, Option.map_eq_some_iff, Prod.mk.injEq] at h
      obtain ⟨⟨b, a⟩, hs, rfl, rfl⟩ := h
      obtain ⟨rfl, free⟩ := ih hs
      exact ⟨rfl, by simp [free, Ne.symm hx]⟩

theorem splitLast_eq_none_iff {c : Char} {text : List Char} :
    splitLast c text = none ↔ c ∉ text := by
  induction text with
  | nil => simp [splitLast]
  | cons x xs ih =>
    cases hs : splitLast c xs with
    | none =>
      have free := ih.mp hs
      by_cases h : x = c
      · simp [splitLast, hs, h]
      · simp [splitLast, hs, h, free, Ne.symm h]
    | some pair =>
      have held : ¬ (c ∉ xs) := fun h => by simp [ih.mpr h] at hs
      simp only [splitLast, hs, reduceCtorEq, List.mem_cons, not_or, false_iff]
      exact fun h => held h.2

theorem eq_append_of_splitLast {c : Char} {text before after : List Char}
    (h : splitLast c text = some (before, after)) :
    text = before ++ c :: after ∧ c ∉ after := by
  induction text generalizing before after with
  | nil => simp [splitLast] at h
  | cons x xs ih =>
    cases hs : splitLast c xs with
    | none =>
      by_cases hx : x = c
      · simp [splitLast, hs, hx] at h
        obtain ⟨rfl, rfl⟩ := h
        exact ⟨by simp [hx], splitLast_eq_none_iff.mp hs⟩
      · simp [splitLast, hs, hx] at h
    | some pair =>
      obtain ⟨b, a⟩ := pair
      simp [splitLast, hs] at h
      obtain ⟨rfl, rfl⟩ := h
      obtain ⟨rfl, free⟩ := ih hs
      exact ⟨rfl, free⟩

theorem splitLast_append {c : Char} {before after : List Char} (free : c ∉ after) :
    splitLast c (before ++ c :: after) = some (before, after) := by
  induction before with
  | nil => simp [splitLast, splitLast_eq_none_iff.mpr free]
  | cons x xs ih => simp [splitLast, ih]

theorem splitAll_of_not_mem {c : Char} {text : List Char} (free : c ∉ text) :
    splitAll c text = [text] := by
  induction text with
  | nil => rfl
  | cons x xs ih =>
    have other : x ≠ c := fun h => free (h ▸ List.mem_cons_self)
    simp only [splitAll, if_neg other, ih fun h => free (List.mem_cons_of_mem x h)]

theorem splitAll_append {c : Char} {piece : List Char} (free : c ∉ piece) (rest : List Char) :
    splitAll c (piece ++ c :: rest) = piece :: splitAll c rest := by
  induction piece with
  | nil => simp only [List.nil_append, splitAll, if_true]
  | cons x xs ih =>
    have other : x ≠ c := fun h => free (h ▸ List.mem_cons_self)
    simp only [List.cons_append, splitAll, if_neg other,
      ih fun h => free (List.mem_cons_of_mem x h)]

theorem splitAll_ne_nil (c : Char) (text : List Char) : splitAll c text ≠ [] := by
  cases text with
  | nil => simp [splitAll]
  | cons x xs =>
    unfold splitAll
    split
    · exact List.cons_ne_nil _ _
    · split <;> exact List.cons_ne_nil _ _

/-- A text is cut into pieces without the separator, which make up the text with separators between them. -/
theorem splitAll_eq_iff {c : Char} {text : List Char} {pieces : List (List Char)} :
    splitAll c text = pieces ↔
      pieces ≠ [] ∧ (∀ piece ∈ pieces, c ∉ piece) ∧ text = [c].intercalate pieces := by
  constructor
  · rintro rfl
    refine ⟨splitAll_ne_nil c text, ?_⟩
    induction text with
    | nil => simp [splitAll]
    | cons x xs ih =>
      obtain ⟨free, whole⟩ := ih
      obtain ⟨piece, pieces, cut⟩ := List.exists_cons_of_ne_nil (splitAll_ne_nil c xs)
      rw [cut] at free whole
      rw [splitAll]
      split
      · next same =>
        rw [cut, List.intercalate_cons_cons, whole, same]
        exact ⟨List.forall_mem_cons.mpr ⟨List.not_mem_nil, free⟩, rfl⟩
      · next other =>
        rw [cut, whole]
        obtain ⟨first, rest⟩ := List.forall_mem_cons.mp free
        have longer : c ∉ x :: piece := by simp [first, Ne.symm other]
        refine ⟨List.forall_mem_cons.mpr ⟨longer, rest⟩, ?_⟩
        cases pieces with
        | nil => rw [List.intercalate_singleton, List.intercalate_singleton]
        | cons next others =>
          rw [List.intercalate_cons_cons, List.intercalate_cons_cons]
          rfl
  · rintro ⟨some_piece, free, rfl⟩
    induction pieces with
    | nil => exact absurd rfl some_piece
    | cons piece pieces ih =>
      have first := free piece List.mem_cons_self
      cases pieces with
      | nil =>
        rw [List.intercalate_singleton]
        exact splitAll_of_not_mem first
      | cons next rest =>
        have later := ih (List.cons_ne_nil next rest) fun piece held => free piece (List.mem_cons_of_mem _ held)
        rw [List.intercalate_cons_cons, List.append_assoc, List.singleton_append, splitAll_append first, later]

theorem stripLead_append (lead rest : List Char) : stripLead lead (lead ++ rest) = some rest := by
  rw [stripLead, if_pos (List.isPrefixOf_iff_prefix.mpr (List.prefix_append lead rest)),
    List.drop_left]

theorem stripLead_eq_some_iff {lead text rest : List Char} :
    stripLead lead text = some rest ↔ text = lead ++ rest := by
  constructor
  · intro stripped
    obtain ⟨found, left⟩ := Option.ite_none_right_eq_some.mp stripped
    cases left
    exact (List.prefix_iff_eq_append.mp (List.isPrefixOf_iff_prefix.mp found)).symm
  · rintro rfl
    exact stripLead_append lead rest

theorem stripLead_eq_none_iff {lead text : List Char} :
    stripLead lead text = none ↔ ¬ lead <+: text := by
  rw [stripLead, ite_eq_right_iff, List.isPrefixOf_iff_prefix]
  simp

theorem eq_append_of_splitAround {sep text before after : List Char}
    (h : splitAround sep text = some (before, after)) : text = before ++ sep ++ after := by
  induction text generalizing before with
  | nil =>
    simp only [splitAround, List.isEmpty_iff, Option.ite_none_right_eq_some, Option.some.injEq,
      Prod.mk.injEq] at h
    obtain ⟨rfl, rfl, rfl⟩ := h
    rfl
  | cons x xs ih =>
    unfold splitAround at h
    split at h
    · rename_i found
      cases h
      exact (List.prefix_iff_eq_append.mp (List.isPrefixOf_iff_prefix.mp found)).symm
    · rw [Option.map_eq_some_iff] at h
      obtain ⟨⟨b, a⟩, hs, he⟩ := h
      cases he
      simp [ih hs]

/-- Where the first occurrence of a word stands does not depend on what follows it. -/
theorem splitAround_replace {sep text before after : List Char}
    (h : splitAround sep text = some (before, after)) (other : List Char) :
    splitAround sep (before ++ sep ++ other) = some (before, other) := by
  induction text generalizing before with
  | nil =>
    simp only [splitAround, List.isEmpty_iff, Option.ite_none_right_eq_some, Option.some.injEq,
      Prod.mk.injEq] at h
    obtain ⟨rfl, rfl, rfl⟩ := h
    cases other <;> simp [splitAround]
  | cons x xs ih =>
    have whole := eq_append_of_splitAround h
    unfold splitAround at h
    split at h
    · cases h
      cases sep with
      | nil => cases other <;> simp [splitAround]
      | cons s rest => simp [splitAround]
    · rename_i absent
      rw [Option.map_eq_some_iff] at h
      obtain ⟨⟨b, a⟩, hs, he⟩ := h
      cases he
      have absent' : ¬ sep.isPrefixOf (x :: (b ++ sep ++ other)) = true := by
        intro found
        have within : sep <+: x :: (b ++ sep) :=
          List.prefix_of_prefix_length_le (List.isPrefixOf_iff_prefix.mp found)
            (List.prefix_append (x :: (b ++ sep)) other) (by simp; omega)
        apply absent
        rw [whole, List.isPrefixOf_iff_prefix]
        exact within.trans (List.prefix_append (x :: (b ++ sep)) after)
      rw [List.cons_append, List.cons_append, splitAround, if_neg absent', ih hs]
      rfl

theorem splitAround_append {first : Char} {before : List Char} (free : first ∉ before)
    (word rest : List Char) :
    splitAround (first :: word) (before ++ first :: word ++ rest) = some (before, rest) := by
  induction before with
  | nil =>
    have found : (first :: word).isPrefixOf (first :: word ++ rest) = true :=
      List.isPrefixOf_iff_prefix.mpr (List.prefix_append _ _)
    rw [List.nil_append, List.cons_append, splitAround, ← List.cons_append, if_pos found,
      List.drop_left]
  | cons x xs ih =>
    have other : first ≠ x := fun h => free (h ▸ List.mem_cons_self)
    have absent : ¬ (first :: word).isPrefixOf (x :: (xs ++ first :: word ++ rest)) = true := by
      simp [List.isPrefixOf, other]
    rw [List.cons_append, List.cons_append, splitAround, if_neg absent,
      ih fun h => free (List.mem_cons_of_mem x h)]
    rfl

end Passage.Text
