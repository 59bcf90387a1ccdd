import Passage.Proofs.Scram.Server

namespace Passage

/-- The text with a word in the place of each `c`. -/
def Text.substitute (c : Char) (word text : List Char) : List Char :=
  text.flatMap fun x => if x = c then word else [x]

theorem Text.splitAll_eq_singleton_iff {c : Char} {text : List Char} :
    splitAll c text = [text] ↔ c ∉ text := by
  constructor
  · intro whole
    exact (splitAll_eq_iff.mp whole).2.1 text List.mem_cons_self
  · exact splitAll_of_not_mem

namespace Scram

/-- What a character of a name is written as. -/
def escapeChar (c : Char) : List Char :=
  if c = '=' then "=3D".toList else if c = ',' then "=2C".toList else [c]

theorem toList_escapeName (name : String) :
    (escapeName name).toList = name.toList.flatMap escapeChar := by
  rw [escapeName, String.toList_ofList]
  rfl

theorem escapeChar_cases (c : Char) :
    c = '=' ∧ escapeChar c = ['=', '3', 'D'] ∨ c = ',' ∧ escapeChar c = ['=', '2', 'C'] ∨
      (c ≠ '=' ∧ c ≠ ',') ∧ escapeChar c = [c] := by
  by_cases equals : c = '='
  · subst equals
    exact .inl ⟨rfl, rfl⟩
  · by_cases comma : c = ','
    · subst comma
      exact .inr (.inl ⟨rfl, rfl⟩)
    · exact .inr (.inr ⟨⟨equals, comma⟩, by rw [escapeChar, if_neg equals, if_neg comma]⟩)

/-- A name is escaped in two passes, of which the first writes no comma. The other way round, the `=`
that is written for a comma would be taken for one of the name's own. -/
theorem escapeName_eq_substitute (name : String) :
    (escapeName name).toList =
      Text.substitute ',' "=2C".toList (Text.substitute '=' "=3D".toList name.toList) := by
  rw [toList_escapeName, Text.substitute, Text.substitute, List.flatMap_assoc]
  congr 1
  funext c
  rcases escapeChar_cases c with ⟨rfl, word⟩ | ⟨rfl, word⟩ | ⟨⟨equals, comma⟩, word⟩
  · rw [word]
    rfl
  · rw [word]
    rfl
  · rw [word, if_neg equals, List.flatMap_singleton, if_neg comma]

theorem suffix_of_escape {x y : Char} (first : x ≠ '=') (second : y ≠ '=') {after rest : List Char}
    (h : '=' :: after <:+ '=' :: x :: y :: rest) : after = x :: y :: rest ∨ '=' :: after <:+ rest := by
  rw [List.suffix_cons_iff, List.suffix_cons_iff, List.suffix_cons_iff] at h
  simpa [Ne.symm first, Ne.symm second] using h

theorem escape_of_suffix {name after : List Char} (h : '=' :: after <:+ name.flatMap escapeChar) :
    ['3', 'D'] <+: after ∨ ['2', 'C'] <+: after := by
  induction name with
  | nil => simp at h
  | cons c cs ih =>
    rw [List.flatMap_cons] at h
    rcases escapeChar_cases c with ⟨-, word⟩ | ⟨-, word⟩ | ⟨⟨equals, -⟩, word⟩
    · rw [word] at h
      rcases suffix_of_escape (by decide) (by decide) h with rfl | later
      · exact .inl (List.prefix_append _ _)
      · exact ih later
    · rw [word] at h
      rcases suffix_of_escape (by decide) (by decide) h with rfl | later
      · exact .inr (List.prefix_append _ _)
      · exact ih later
    · rw [word, List.singleton_append, List.suffix_cons_iff, List.cons.injEq] at h
      rcases h with ⟨same, -⟩ | later
      · exact absurd same.symm equals
      · exact ih later

theorem eq_escapeName_of_unescapeName {text name : List Char} (h : unescapeName text = some name) :
    text = name.flatMap escapeChar := by
  induction text using unescapeName.induct generalizing name with
  | case1 =>
    cases h
    rfl
  | case2 rest ih =>
    rw [unescapeName] at h
    obtain ⟨left, read, rfl⟩ := Option.map_eq_some_iff.mp h
    rw [List.flatMap_cons, ← ih read]
    rfl
  | case3 rest ih =>
    rw [unescapeName] at h
    obtain ⟨left, read, rfl⟩ := Option.map_eq_some_iff.mp h
    rw [List.flatMap_cons, ← ih read]
    rfl
  | case4 c rest equals comma bare =>
    rw [unescapeName, if_pos bare] at h
    · cases h
    · exact equals
    · exact comma
  | case5 c rest equals comma plain ih =>
    rw [unescapeName, if_neg plain] at h
    · obtain ⟨left, read, rfl⟩ := Option.map_eq_some_iff.mp h
      rw [not_or] at plain
      rw [List.flatMap_cons, ← ih read, escapeChar, if_neg plain.1, if_neg plain.2]
      rfl
    · exact equals
    · exact comma

/-- An escaped name is the only text that is read as the name. -/
theorem unescapeName_eq_some_iff {text : List Char} {name : String} :
    unescapeName text = some name.toList ↔ text = (escapeName name).toList := by
  constructor
  · intro read
    rw [toList_escapeName]
    exact eq_escapeName_of_unescapeName read
  · rintro rfl
    exact unescapeName_escapeName name

theorem escapeName_injective {name other : String} (h : escapeName name = escapeName other) :
    name = other := by
  have read := unescapeName_escapeName name
  rw [h, unescapeName_escapeName] at read
  exact (String.toList_inj.mp (Option.some.inj read)).symm

namespace Client

theorem toList_first (c : Client) :
    c.first.toList = ['n'] ++ ',' :: ([] ++ ',' :: ('n' :: '=' :: (escapeName c.user).toList ++
      ',' :: ('r' :: '=' :: c.nonce.toList))) := by
  simp [first, firstBare, header]

/-- The fields of the first message in front of the nonce end where they are meant to end. -/
theorem splitAll_first (c : Client) :
    Text.splitAll ',' c.first.toList =
      ['n'] :: [] :: ('n' :: '=' :: (escapeName c.user).toList) ::
        Text.splitAll ',' ('r' :: '=' :: c.nonce.toList) := by
  have name : ',' ∉ 'n' :: '=' :: (escapeName c.user).toList := by
    simpa using not_mem_escapeName c.user
  rw [toList_first, Text.splitAll_append (by decide), Text.splitAll_append List.not_mem_nil,
    Text.splitAll_append name]

/-- The first comma behind the name ends it, so the message tells the name and the nonce. -/
theorem first_eq_iff {c d : Client} : c.first = d.first ↔ c.user = d.user ∧ c.nonce = d.nonce := by
  constructor
  · intro same
    rw [← String.toList_inj, toList_first, toList_first] at same
    have behind : (escapeName c.user).toList ++ ',' :: 'r' :: '=' :: c.nonce.toList =
        (escapeName d.user).toList ++ ',' :: 'r' :: '=' :: d.nonce.toList := by
      simpa using same
    have cut := congrArg (Text.splitFirst ',') behind
    rw [Text.splitFirst_append (not_mem_escapeName c.user),
      Text.splitFirst_append (not_mem_escapeName d.user)] at cut
    simp only [Option.some.injEq, Prod.mk.injEq, List.cons.injEq, true_and, String.toList_inj] at cut
    exact ⟨escapeName_injective cut.1, cut.2⟩
  · rintro ⟨user, nonce⟩
    rw [first, first, firstBare, firstBare, user, nonce]

/-- The name cannot add to the message or take from it. Unless the nonce holds a comma, there are four
fields: the header's two, the name and the nonce. The escaped name, which is written in two passes, holds
no comma and no `=` but that of an escape, it is the one text that the name is read back from, and no
other name and nonce make the same message. -/
theorem first_fields (c : Client) :
    let escaped := (escapeName c.user).toList
    (Text.splitAll ',' c.first.toList =
        ["n".toList, [], "n=".toList ++ escaped, "r=".toList ++ c.nonce.toList] ↔
      ',' ∉ c.nonce.toList) ∧
    escaped = Text.substitute ',' "=2C".toList (Text.substitute '=' "=3D".toList c.user.toList) ∧
    ',' ∉ escaped ∧
    (∀ before after, escaped = before ++ '=' :: after →
      "3D".toList <+: after ∨ "2C".toList <+: after) ∧
    (∀ text, unescapeName text = some c.user.toList ↔ text = escaped) ∧
    ∀ d : Client, c.first = d.first ↔ c.user = d.user ∧ c.nonce = d.nonce := by
  intro escaped
  refine ⟨?fields, escapeName_eq_substitute c.user, not_mem_escapeName c.user, ?escapes,
    fun text => unescapeName_eq_some_iff, fun d => first_eq_iff⟩
  case fields =>
    have last : ',' ∉ 'r' :: '=' :: c.nonce.toList ↔ ',' ∉ c.nonce.toList := by simp
    rw [splitAll_first, ← last, ← Text.splitAll_eq_singleton_iff]
    simp [escaped]
  case escapes =>
    intro before after cut
    have inside : '=' :: after <:+ c.user.toList.flatMap escapeChar :=
      ⟨before, by rw [← toList_escapeName]; exact cut.symm⟩
    exact escape_of_suffix inside

/-- A name that would read as fields and as escapes. -/
theorem first_fields_marked :
    let c : Client := ⟨",r=1,=2C", "secret", "fyko"⟩
    ',' ∉ c.nonce.toList ∧ c.first = "n,,n==2Cr=3D1=2C=3D2C,r=fyko" ∧
      Text.splitAll ',' c.first.toList =
        ["n".toList, [], "n==2Cr=3D1=2C=3D2C".toList, "r=fyko".toList] ∧
      unescapeName "=2Cr=3D1=2C=3D2C".toList = some ",r=1,=2C".toList := by
  intro c
  have free : ',' ∉ c.nonce.toList := by decide
  have escaped : (escapeName c.user).toList = "=2Cr=3D1=2C=3D2C".toList := by decide
  obtain ⟨fields, -, -, -, back, -⟩ := first_fields c
  have four := fields.mpr free
  rw [escaped] at four
  refine ⟨free, by cbv, four.trans (by decide), ?_⟩
  rw [← escaped]
  exact (back _).mpr rfl

end Client
end Scram
end Passage
