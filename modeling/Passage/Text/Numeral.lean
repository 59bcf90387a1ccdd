namespace Passage.Text

def digit? (c : Char) : Option Nat :=
  if '0' ≤ c ∧ c ≤ '9' then some (c.toNat - '0'.toNat) else none

def decimalFrom (acc : Nat) : List Char → Option Nat
  | [] => some acc
  | c :: cs =>
    match digit? c with
    | some d => decimalFrom (acc * 10 + d) cs
    | none => none

def decimal? : List Char → Option Nat
  | [] => none
  | c :: cs => decimalFrom 0 (c :: cs)

/-- The value of a numeral that is at most `limit`; one plus sign may stand in front. -/
def numeral? (limit : Nat) (text : List Char) : Option Nat :=
  let digits :=
    match text with
    | '+' :: rest => rest
    | _ => text
  (decimal? digits).filter (· ≤ limit)

def port? (text : List Char) : Option UInt16 :=
  (numeral? 65535 text).map UInt16.ofNat

theorem digit?_of_isDigit {c : Char} (h : c.isDigit = true) :
    digit? c = some (c.toNat - '0'.toNat) := by
  have hc : '0' ≤ c ∧ c ≤ '9' := by
    simp only [Char.isDigit, Bool.and_eq_true, decide_eq_true_eq] at h
    exact h
  rw [digit?, if_pos hc]

theorem decimalFrom_of_isDigit {digits : List Char} (h : ∀ c ∈ digits, c.isDigit = true)
    (acc : Nat) : decimalFrom acc digits = some (Nat.ofDigitChars 10 digits acc) := by
  induction digits generalizing acc with
  | nil => rfl
  | cons c cs ih =>
    rw [decimalFrom, digit?_of_isDigit (h c List.mem_cons_self), Nat.ofDigitChars_cons,
      Nat.mul_comm 10 acc]
    exact ih (fun d hd => h d (List.mem_cons_of_mem c hd)) _

theorem digit?_eq_some {c : Char} {d : Nat} (h : digit? c = some d) :
    c.isDigit = true ∧ d = c.toNat - '0'.toNat := by
  unfold digit? at h
  split at h
  · rename_i bounds
    cases h
    refine ⟨?_, rfl⟩
    simp only [Char.isDigit, Bool.and_eq_true, decide_eq_true_eq]
    exact bounds
  · cases h

theorem decimalFrom_eq_some {digits : List Char} {acc n : Nat}
    (h : decimalFrom acc digits = some n) :
    (∀ c ∈ digits, c.isDigit = true) ∧ n = Nat.ofDigitChars 10 digits acc := by
  induction digits generalizing acc with
  | nil =>
    cases h
    exact ⟨fun c hc => absurd hc List.not_mem_nil, rfl⟩
  | cons c cs ih =>
    unfold decimalFrom at h
    split at h
    · rename_i d hd
      obtain ⟨isDigit, rfl⟩ := digit?_eq_some hd
      obtain ⟨digits, rfl⟩ := ih h
      refine ⟨?_, by rw [Nat.ofDigitChars_cons, Nat.mul_comm]⟩
      intro x hx
      rcases List.mem_cons.mp hx with rfl | hx
      · exact isDigit
      · exact digits x hx
    · cases h

/-- The text is a numeral of this value. -/
def Numeral (text : List Char) (n : Nat) : Prop :=
  ∃ sign digits, text = sign ++ digits ∧ (sign = [] ∨ sign = ['+']) ∧ digits ≠ [] ∧
    (∀ c ∈ digits, c.isDigit = true) ∧ n = Nat.ofDigitChars 10 digits 0

theorem numeral_of_numeral? {limit n : Nat} {text : List Char} (h : numeral? limit text = some n) :
    Numeral text n ∧ n ≤ limit := by
  obtain ⟨sign, digits, whole, plus, read⟩ : ∃ sign digits, text = sign ++ digits ∧
      (sign = [] ∨ sign = ['+']) ∧ (decimal? digits).filter (· ≤ limit) = some n := by
    unfold numeral? at h
    split at h
    · exact ⟨['+'], _, rfl, .inr rfl, h⟩
    · exact ⟨[], _, rfl, .inl rfl, h⟩
  obtain ⟨value, bound⟩ := Option.filter_eq_some_iff.mp read
  cases digits with
  | nil => cases value
  | cons c cs =>
    obtain ⟨isDigit, rfl⟩ := decimalFrom_eq_some value
    exact ⟨⟨sign, c :: cs, whole, plus, List.cons_ne_nil c cs, isDigit, rfl⟩, by simpa using bound⟩

/-- A text is read as a number exactly if it is a numeral of the number. -/
theorem numeral?_eq_some_iff {limit n : Nat} {text : List Char} :
    numeral? limit text = some n ↔ Numeral text n ∧ n ≤ limit := by
  constructor
  · exact numeral_of_numeral?
  · rintro ⟨⟨sign, digits, rfl, plus, some_digit, isDigit, rfl⟩, bound⟩
    obtain ⟨c, cs, rfl⟩ := List.exists_cons_of_ne_nil some_digit
    have read : (decimal? (c :: cs)).filter (· ≤ limit) = some (Nat.ofDigitChars 10 (c :: cs) 0) := by
      rw [decimal?, decimalFrom_of_isDigit isDigit, Option.filter_some, if_pos (by simpa using bound)]
    rcases plus with rfl | rfl
    · have unsigned : c ≠ '+' := by
        rintro rfl
        exact absurd (isDigit '+' List.mem_cons_self) (by decide)
      rw [List.nil_append]
      unfold numeral?
      split
      · next same =>
        cases same
        exact absurd rfl unsigned
      · exact read
    · exact read

theorem isDigit_of_mem_toString {n : Nat} {c : Char} (h : c ∈ (toString n).toList) :
    c.isDigit = true := by
  rw [Nat.toString_eq_repr, Nat.toList_repr] at h
  exact Nat.isDigit_of_mem_toDigits (by decide) (by decide) h

theorem toString_ne_nil (n : Nat) : (toString n).toList ≠ [] := by
  rw [Nat.toString_eq_repr, Nat.toList_repr]
  exact Nat.toDigits_ne_nil

theorem numeral?_toString {limit n : Nat} (h : n ≤ limit) :
    numeral? limit (toString n).toList = some n := by
  have digits := @isDigit_of_mem_toString n
  have value : Nat.ofDigitChars 10 (toString n).toList 0 = n := by
    rw [Nat.toString_eq_repr, Nat.toList_repr, Nat.ofDigitChars_ten_toDigits]
  have some_digit := toString_ne_nil n
  revert digits value some_digit
  generalize (toString n).toList = text
  intro digits value some_digit
  cases text with
  | nil => exact absurd rfl some_digit
  | cons c cs =>
    have plain : c ≠ '+' := by
      rintro rfl
      exact absurd (digits List.mem_cons_self) (by decide)
    have read : decimal? (c :: cs) = some n := by
      rw [decimal?, decimalFrom_of_isDigit (fun _ => digits), value]
    unfold numeral?
    split
    · rename_i he
      cases he
      exact absurd rfl plain
    · change (decimal? (c :: cs)).filter (· ≤ limit) = some n
      rw [read, Option.filter_some, if_pos (by simpa using h)]

end Passage.Text
