namespace Passage.Text

/-- The characters with the property White_Space. -/
def isBlank (c : Char) : Bool :=
  let n := c.toNat
  (9 ≤ n && n ≤ 13) || n == 0x20 || n == 0x85 || n == 0xA0 || n == 0x1680 ||
    (0x2000 ≤ n && n ≤ 0x200A) || n == 0x2028 || n == 0x2029 || n == 0x202F || n == 0x205F ||
    n == 0x3000

def trimEnd (text : List Char) : List Char :=
  (text.reverse.dropWhile isBlank).reverse

def trim (text : List Char) : List Char :=
  trimEnd (text.dropWhile isBlank)

def blank (text : String) : Bool :=
  text.toList.all isBlank

theorem trimEnd_of_no_blank {text : List Char} (h : ∀ c ∈ text, isBlank c = false) :
    trimEnd text = text := by
  have last : text.reverse.dropWhile isBlank = text.reverse := by
    cases he : text.reverse with
    | nil => rfl
    | cons c cs =>
      have : c ∈ text := List.mem_reverse.mp (he ▸ List.mem_cons_self)
      rw [List.dropWhile_cons_of_neg (by simp [h c this])]
  rw [trimEnd, last, List.reverse_reverse]

theorem trimEnd_eq_iff {text core : List Char} (trimmed : trimEnd core = core) :
    trimEnd text = core ↔ ∃ blanks, (∀ c ∈ blanks, isBlank c = true) ∧ text = core ++ blanks := by
  constructor
  · intro left
    refine ⟨(text.reverse.takeWhile isBlank).reverse, ?_, ?_⟩
    · intro c held
      exact List.all_eq_true.mp List.all_takeWhile c (List.mem_reverse.mp held)
    · have whole := congrArg List.reverse (List.takeWhile_append_dropWhile (p := isBlank) (l := text.reverse))
      rw [List.reverse_append, List.reverse_reverse] at whole
      rw [← left, trimEnd, whole]
  · rintro ⟨blanks, blank, rfl⟩
    have passed : ∀ c ∈ blanks.reverse, isBlank c = true := by
      intro c held
      exact blank c (List.mem_reverse.mp held)
    rw [trimEnd, List.reverse_append, List.dropWhile_append_of_pos passed]
    exact trimmed

end Passage.Text
