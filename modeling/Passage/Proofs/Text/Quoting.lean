import Mathlib
import Passage.Text.Quoted

namespace Passage

namespace Quoted

theorem digitChar_inj {m n : Nat} (hm : m < 16) (hn : n < 16)
    (h : Nat.digitChar m = Nat.digitChar n) : m = n := by
  have table : ∀ i < 16, ∀ j < 16, Nat.digitChar i = Nat.digitChar j → i = j := by decide
  exact table m hm n hn h

theorem hex_of_lt {n : Nat} (h : n < 16) : hex n = [Nat.digitChar n] :=
  Nat.toDigits_of_lt_base h

theorem hex_of_le {n : Nat} (h : 16 ≤ n) :
    hex n = hex (n / 16) ++ [Nat.digitChar (n % 16)] :=
  Nat.toDigits_of_base_le (by decide) h

theorem hex_ne_nil (n : Nat) : hex n ≠ [] := Nat.toDigits_ne_nil

theorem hex_inj {m n : Nat} (h : hex m = hex n) : m = n := by
  -- on the digits of `m`, the last of which is the last of `n`
  induction m using Nat.strong_induction_on generalizing n with
  | h m ih =>
    rcases Nat.lt_or_ge m 16 with small | large <;> rcases Nat.lt_or_ge n 16 with small' | large'
    · rw [hex_of_lt small, hex_of_lt small'] at h
      exact digitChar_inj small small' (List.cons.inj h).1
    · rw [hex_of_lt small, hex_of_le large', ← List.nil_append [Nat.digitChar m]] at h
      exact absurd (List.append_inj_left' h rfl).symm (hex_ne_nil _)
    · rw [hex_of_lt small', hex_of_le large, ← List.nil_append [Nat.digitChar n]] at h
      exact absurd (List.append_inj_left' h rfl) (hex_ne_nil _)
    · rw [hex_of_le large, hex_of_le large'] at h
      have high := ih (m / 16) (by omega) (List.append_inj_left' h rfl)
      have low := digitChar_inj (Nat.mod_lt m (by decide)) (Nat.mod_lt n (by decide))
        (List.cons.inj (List.append_inj_right' h rfl)).1
      omega

theorem brace_not_mem_hex (n : Nat) : '\x7d' ∉ hex n := by
  have table : ∀ i < 16, '\x7d' ≠ Nat.digitChar i := by decide
  induction n using Nat.strong_induction_on with
  | h n ih =>
    rcases Nat.lt_or_ge n 16 with small | large
    · rw [hex_of_lt small, List.mem_singleton]
      exact table n small
    · rw [hex_of_le large, List.mem_append, List.mem_singleton, not_or]
      exact ⟨ih (n / 16) (by omega), table _ (Nat.mod_lt n (by decide))⟩

def named : Char → Char
  | '0' => Char.ofNat 0
  | 't' => '\t'
  | 'r' => '\r'
  | 'n' => '\n'
  | c => c

/-- A character is shown by a letter behind a backslash, by its number, or by itself. -/
inductive Shown (c : Char) : List Char → Prop where
  | letter {l : Char} (other : l ≠ 'u') (means : c = named l) : Shown c ['\\', l]
  | number : Shown c ('\\' :: 'u' :: '\x7b' :: (hex c.toNat ++ ['\x7d']))
  | plain (other : c ≠ '\\') : Shown c [c]

theorem shown_escape (c : Char) : Shown c (escape '"' c) := by
  unfold escape
  split
  · rename_i zero
    refine .letter (by decide) ?_
    rw [← Char.ofNat_toNat c, zero]
    rfl
  split
  · rename_i tab
    exact .letter (by decide) tab
  split
  · rename_i carriage
    exact .letter (by decide) carriage
  split
  · rename_i newline
    exact .letter (by decide) newline
  split
  · rename_i marked
    rcases marked with rfl | rfl
    · exact .letter (by decide) rfl
    · exact .letter (by decide) rfl
  · rename_i unmarked
    split
    · exact .number
    · exact .plain fun backslash => unmarked (.inl backslash)

/-- Which character it is and where it ends can be told from what is shown. -/
theorem Shown.append_inj {c d : Char} {a b s t : List Char} (hc : Shown c a) (hd : Shown d b)
    (h : a ++ s = b ++ t) : c = d ∧ s = t := by
  cases hc with
  | letter other means =>
    cases hd with
    | letter other' means' =>
      simp only [List.cons_append, List.nil_append, List.cons.injEq, true_and] at h
      exact ⟨by rw [means, means', h.1], h.2⟩
    | number => exact absurd (List.cons.inj (List.cons.inj h).2).1 other
    | plain other' => exact absurd (List.cons.inj h).1.symm other'
  | number =>
    cases hd with
    | letter other' means' => exact absurd (List.cons.inj (List.cons.inj h).2).1.symm other'
    | number =>
      simp only [List.cons_append, List.append_assoc, List.nil_append, List.cons.injEq,
        true_and] at h
      have cut : Text.splitFirst '\x7d' (hex c.toNat ++ '\x7d' :: s) = some (hex c.toNat, s) :=
        Text.splitFirst_append (brace_not_mem_hex c.toNat)
      rw [h, Text.splitFirst_append (brace_not_mem_hex d.toNat), Option.some.injEq,
        Prod.mk.injEq] at cut
      exact ⟨Char.toNat_inj.mp (hex_inj cut.1.symm), cut.2.symm⟩
    | plain other' => exact absurd (List.cons.inj h).1.symm other'
  | plain other =>
    cases hd with
    | letter other' means' => exact absurd (List.cons.inj h).1 other
    | number => exact absurd (List.cons.inj h).1 other
    | plain other' => exact List.cons.inj h

theorem Shown.ne_nil {c : Char} {a : List Char} (h : Shown c a) : a ≠ [] := by
  cases h <;> exact List.cons_ne_nil _ _

theorem flatMap_escape_inj {a b : List Char} (h : a.flatMap (escape '"') = b.flatMap (escape '"')) :
    a = b := by
  induction a generalizing b with
  | nil =>
    cases b with
    | nil => rfl
    | cons d b => exact absurd (List.append_eq_nil_iff.mp h.symm).1 (shown_escape d).ne_nil
  | cons c a ih =>
    cases b with
    | nil => exact absurd (List.append_eq_nil_iff.mp h).1 (shown_escape c).ne_nil
    | cons d b =>
      rw [List.flatMap_cons, List.flatMap_cons] at h
      obtain ⟨rfl, rest⟩ := (shown_escape c).append_inj (shown_escape d) h
      rw [ih rest]

theorem text_inj {s t : String} (h : text s = text t) : s = t := by
  have inner := List.cons.inj (String.ofList_injective h)
  exact String.toList_inj.mp (flatMap_escape_inj (List.append_cancel_right inner.2))

end Quoted

theorem Text.joinWith_cons {sep piece : String} {pieces : List String} (more : pieces ≠ []) :
    joinWith sep (piece :: pieces) = piece ++ sep ++ joinWith sep pieces := by
  cases pieces with
  | nil => exact absurd rfl more
  | cons next rest => rfl

theorem Text.joinWith_replace_iff {sep : String} (before after : List String) {x y : String} :
    joinWith sep (before ++ x :: after) = joinWith sep (before ++ y :: after) ↔ x = y := by
  induction before with
  | nil =>
    cases after with
    | nil => rfl
    | cons next rest =>
      rw [List.nil_append, List.nil_append, joinWith_cons (List.cons_ne_nil _ _),
        joinWith_cons (List.cons_ne_nil _ _), String.append_left_inj, String.append_left_inj]
  | cons piece before ih =>
    rw [List.cons_append, List.cons_append, joinWith_cons (by simp), joinWith_cons (by simp),
      String.append_right_inj, ih]

theorem Quoted.record_replace_iff {name field x y : String} (before after : List (String × String)) :
    record name (before ++ (field, x) :: after) = record name (before ++ (field, y) :: after) ↔
      x = y := by
  simp only [record, List.map_append, List.map_cons, String.append_left_inj,
    String.append_right_inj, Text.joinWith_replace_iff]

theorem Quoted.wrapped_inj {name x y : String} : wrapped name x = wrapped name y ↔ x = y := by
  rw [wrapped, wrapped, String.append_left_inj, String.append_right_inj]

/-- What is shown of an optional text is the text. -/
theorem Quoted.option_text_iff {a b : Option String} (both : a.isSome = b.isSome) :
    option text a = option text b ↔ a = b := by
  cases a <;> cases b
  · simp
  · cases both
  · cases both
  · simp only [option, wrapped_inj, Option.some.injEq]
    exact ⟨text_inj, congrArg text⟩

end Passage
