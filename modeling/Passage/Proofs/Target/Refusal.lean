import Passage.Proofs.Target.Composing
import Passage.Proofs.Target.Hiding

namespace Passage

theorem Text.splitAround_append_of_not_infix {first : Char} {word before : List Char}
    (once : first ∉ word) (free : ¬ first :: word <:+: before) (rest : List Char) :
    splitAround (first :: word) (before ++ first :: word ++ rest) = some (before, rest) := by
  induction before with
  | nil => exact splitAround_append List.not_mem_nil word rest
  | cons x xs ih =>
    have absent : ¬ (first :: word).isPrefixOf (x :: (xs ++ first :: word ++ rest)) = true := by
      intro found
      have found : first :: word <+: (x :: xs) ++ (first :: word ++ rest) := by
        simpa using List.isPrefixOf_iff_prefix.mp found
      rcases List.prefix_or_prefix_of_prefix found (List.prefix_append _ _) with inside | across
      · exact free inside.isInfix
      · -- the text ends inside the word, which would have to go on with its first character
        obtain ⟨behind, whole⟩ := across
        cases behind with
        | nil =>
          rw [List.append_nil] at whole
          exact free (whole ▸ List.infix_rfl)
        | cons c behind =>
          have next : c :: behind <+: first :: word ++ rest :=
            (List.prefix_append_right_inj (x :: xs)).mp (by rwa [whole])
          obtain ⟨rfl, -⟩ := List.cons_prefix_cons.mp next
          have held : c ∈ xs ++ c :: behind := by simp
          exact once ((List.cons.inj whole).2 ▸ held)
    rw [List.cons_append, List.cons_append, splitAround, if_neg absent,
      ih fun inside => free (inside.trans (List.suffix_cons x xs).isInfix)]
    rfl

/-- What of a text stands behind the last `@` in front of its path; all of it, if there is none. -/
def behindLastAt (text : List Char) : List Char :=
  match Text.splitLast '@' (text.takeWhile (· ≠ '/')) with
  | none => text
  | some (_, after) => after ++ text.dropWhile (· ≠ '/')

theorem behindLastAt_of_not_mem {text : List Char} (h : '@' ∉ text.takeWhile (· ≠ '/')) :
    behindLastAt text = text := by
  rw [behindLastAt, Text.splitLast_eq_none_iff.mpr h]

theorem behindLastAt_append {before after : List Char} (noPath : '/' ∉ before)
    (last : '@' ∉ after.takeWhile (· ≠ '/')) : behindLastAt (before ++ '@' :: after) = after := by
  obtain ⟨head, path⟩ := at_cutPath noPath after
  rw [behindLastAt, head, Text.splitLast_append last, path]
  exact List.takeWhile_append_dropWhile

/-- A text without credentials is behind them, and a text with credentials ends with what is. -/
theorem behindLastAt_cases (text : List Char) :
    ('@' ∉ text.takeWhile (· ≠ '/') ∧ behindLastAt text = text) ∨
      ∃ before, text = before ++ '@' :: behindLastAt text ∧ '/' ∉ before ∧
        '@' ∉ (behindLastAt text).takeWhile (· ≠ '/') := by
  by_cases held : '@' ∈ text.takeWhile (· ≠ '/')
  · obtain ⟨before, after, rfl, noPath, last⟩ := exists_last_at held
    rw [behindLastAt_append noPath last]
    exact .inr ⟨before, rfl, noPath, last⟩
  · exact .inl ⟨held, behindLastAt_of_not_mem held⟩

theorem length_behindLastAt_le (text : List Char) : (behindLastAt text).length ≤ text.length := by
  rcases behindLastAt_cases text with ⟨-, same⟩ | ⟨before, whole, -, -⟩
  · rw [same]
  · have size := congrArg List.length whole
    rw [List.length_append, List.length_cons] at size
    omega

/-- What stands for a password in the message about a URI that is refused. Behind the last `@` in front of
a slash, the password is taken for an address. -/
def shownPassword (password : List Char) : List Char :=
  if '/' ∉ password then hiddenPassword.toList
  else if '@' ∈ password.takeWhile (· ≠ '/') then hiddenPassword.toList ++ '@' :: behindLastAt password
  else password

def shownBehind (password rest : List Char) : List Char :=
  if '/' ∈ password then rest else behindLastAt rest

theorem not_infix_of_colon {scheme : List Char} (colon : ':' ∉ scheme) : ¬ "://".toList <:+: scheme :=
  fun inside => colon (inside.subset (by simp))

theorem slash_not_mem_hiddenPassword : '/' ∉ hiddenPassword.toList := by decide +kernel

theorem slash_mem_shownPassword_iff {password : List Char} :
    '/' ∈ shownPassword password ↔ '/' ∈ password := by
  have clean := slash_not_mem_hiddenPassword
  unfold shownPassword
  split
  · rename_i free
    simp [clean, free]
  · rename_i slash
    split
    · rcases behindLastAt_cases password with ⟨-, same⟩ | ⟨before, whole, noPath, -⟩
      · simp [same, not_not.mp slash]
      · have behind : '/' ∈ behindLastAt password := by
          have held := not_not.mp slash
          rw [whole] at held
          simpa [noPath] using held
        simp [behind, not_not.mp slash]
    · rfl

section

variable {scheme user : List Char} (cut : ¬ "://".toList <:+: scheme) (name : UserName user)
include cut

theorem splitAround_scheme (rest : List Char) :
    Text.splitAround "://".toList (scheme ++ "://".toList ++ rest) = some (scheme, rest) :=
  Text.splitAround_append_of_not_infix (by decide) cut rest

include name

/-- Credentials with a password are covered up to the `@` that ends them. -/
theorem sanitizeChars_cover {password after : List Char} (noPath : '/' ∉ password)
    (last : '@' ∉ after.takeWhile (· ≠ '/')) :
    sanitizeChars (scheme ++ "://".toList ++ (user ++ ':' :: (password ++ '@' :: after))) =
      scheme ++ "://".toList ++ (user ++ ':' :: (hiddenPassword.toList ++ '@' :: after)) := by
  have noPath' : '/' ∉ user ++ ':' :: password := by simp [name.slash, noPath]
  have named : ¬ InQuery (user ++ ':' :: password) := by
    intro query
    rcases (inQuery_append_passwordText name.colon (some password)).mp query with held | held
    · exact name.question held
    · exact name.hash held
  have found : splitCredentials (user ++ ':' :: (password ++ '@' :: after)) =
      some (user ++ ':' :: password, after) := by
    rw [← List.cons_append, ← List.append_assoc, splitCredentials_append noPath' last, if_neg named]
  rw [sanitizeChars_of_some (splitAround_scheme cut _) found, hideIn_append name.colon]
  simp

/-- A password without a slash is hidden, and so is all that seems to belong to it. -/
theorem sanitizeChars_without_slash {password : List Char} (slash : '/' ∉ password)
    (rest : List Char) :
    sanitizeChars (scheme ++ "://".toList ++ (user ++ ':' :: (password ++ '@' :: rest))) =
      scheme ++ "://".toList ++
        (user ++ ':' :: (hiddenPassword.toList ++ '@' :: behindLastAt rest)) := by
  rcases behindLastAt_cases rest with ⟨last, same⟩ | ⟨before, whole, noPath, last⟩
  · rw [same]
    exact sanitizeChars_cover cut name slash last
  · have joined : '/' ∉ password ++ '@' :: before := by simp [slash, noPath]
    have parts : password ++ '@' :: rest = (password ++ '@' :: before) ++ '@' :: behindLastAt rest := by
      rw [List.append_assoc, List.cons_append, ← whole]
    rw [parts]
    exact sanitizeChars_cover cut name joined last

/-- What is shown of a URI with a password: the password is hidden, or what of it stands in front of an
`@` in front of a slash, or nothing at all. -/
theorem sanitizeChars_password (ampersat : '@' ∉ user) (password rest : List Char) :
    sanitizeChars (scheme ++ "://".toList ++ (user ++ ':' :: (password ++ '@' :: rest))) =
      scheme ++ "://".toList ++
        (user ++ ':' :: (shownPassword password ++ '@' :: shownBehind password rest)) := by
  by_cases slash : '/' ∈ password
  · rw [shownBehind, if_pos slash, shownPassword, if_neg (not_not.mpr slash)]
    split
    · rename_i held
      rcases behindLastAt_cases password with ⟨free, -⟩ | ⟨before, whole, noPath, last⟩
      · exact absurd held free
      · have behind : '/' ∈ behindLastAt password := by
          rw [whole] at slash
          simpa [noPath] using slash
        have last' : '@' ∉ (behindLastAt password ++ '@' :: rest).takeWhile (· ≠ '/') := by
          rwa [takeWhile_ne_append_of_mem behind]
        have parts : password ++ '@' :: rest =
            before ++ '@' :: (behindLastAt password ++ '@' :: rest) := by
          rw [← List.cons_append, ← List.append_assoc, ← whole]
        rw [parts, sanitizeChars_cover cut name noPath last']
        simp only [List.append_assoc, List.cons_append]
    · rename_i free
      have noCredentials : splitCredentials (user ++ ':' :: (password ++ '@' :: rest)) = none := by
        apply splitCredentials_of_not_mem
        rw [takeWhile_ne_append name.slash, List.takeWhile_cons_of_pos (by decide),
          takeWhile_ne_append_of_mem slash]
        simpa [ampersat] using free
      exact sanitizeChars_of_none (splitAround_scheme cut _) noCredentials
  · rw [shownBehind, if_neg slash, shownPassword, if_pos slash]
    exact sanitizeChars_without_slash cut name slash rest

end

/-- Nothing that is shown of one password can be taken for what is shown of another and of what follows
it. -/
theorem shown_eq_iff {password password' : List Char} (rest : List Char) :
    shownPassword password ++ '@' :: shownBehind password rest =
        shownPassword password' ++ '@' :: shownBehind password' rest ↔
      shownPassword password = shownPassword password' := by
  have covered {secret secret' : List Char} (slash : '/' ∈ secret) (free : '/' ∉ secret') :
      shownPassword secret ++ '@' :: shownBehind secret rest ≠
        shownPassword secret' ++ '@' :: shownBehind secret' rest := by
    -- the first would fit into the cover of the second, which has no slash
    intro same
    have cover : shownPassword secret' = hiddenPassword.toList := if_pos free
    rw [shownBehind, if_pos slash, shownBehind, if_neg free, cover] at same
    have size := congrArg List.length same
    have shorter := length_behindLastAt_le rest
    simp only [List.length_append, List.length_cons] at size
    have inside : shownPassword secret <+: hiddenPassword.toList :=
      List.prefix_of_prefix_length_le (same ▸ List.prefix_append _ _) (List.prefix_append _ _)
        (by omega)
    exact slash_not_mem_hiddenPassword (inside.subset (slash_mem_shownPassword_iff.mpr slash))
  constructor
  · intro same
    by_cases slash : '/' ∈ password <;> by_cases slash' : '/' ∈ password'
    · rw [shownBehind, if_pos slash, shownBehind, if_pos slash'] at same
      exact List.append_cancel_right same
    · exact absurd same (covered slash slash')
    · exact absurd same.symm (covered slash' slash)
    · rw [shownPassword, if_pos slash, shownPassword, if_pos slash']
  · intro same
    have slashes : '/' ∈ password ↔ '/' ∈ password' := by
      rw [← slash_mem_shownPassword_iff, same, slash_mem_shownPassword_iff]
    rw [same, shownBehind, shownBehind]
    simp only [slashes]

namespace TargetUri

/-- A text whose scheme is not known is refused for its scheme, any other for its form. -/
theorem refused_cases {scheme rest : String} (cut : ¬ "://".toList <:+: scheme.toList) {fault : Fault}
    (refused : parse (scheme ++ "://" ++ rest) = .error fault) :
    Dialect.read scheme = .error fault ∨
      ∃ dialect, Dialect.read scheme = .ok dialect ∧
        fault = invalid (scheme ++ "://" ++ rest) dialect.name := by
  have found := splitAround_scheme cut rest.toList
  rw [← String.toList_append, ← String.toList_append] at found
  unfold parse at refused
  dsimp only at refused
  rw [found] at refused
  dsimp only at refused
  rw [String.ofList_toList] at refused
  cases known : Dialect.read scheme with
  | error unknown =>
    rw [known] at refused
    cases refused
    exact .inl rfl
  | ok dialect =>
    rw [known] at refused
    dsimp only at refused
    split at refused
    · cases refused
    · cases refused
      exact .inr ⟨dialect, rfl, rfl⟩

theorem invalid_text (text dialect : String) :
    (invalid text dialect).text =
      "Connection Uri \"" ++ sanitize text ++ "\" provided for dialect " ++ dialect ++
        " is not valid. Should be " ++ dialect ++ "://<connection>." ++ Fault.target "" := rfl

theorem invalid_text_eq_iff {text text' dialect : String} :
    (invalid text dialect).text = (invalid text' dialect).text ↔ sanitize text = sanitize text' := by
  rw [invalid_text, invalid_text]
  iterate 6 rw [String.append_left_inj]
  rw [String.append_right_inj]

theorem toList_sanitize {scheme user : String} (cut : ¬ "://".toList <:+: scheme.toList)
    (name : UserName user.toList) (ampersat : '@' ∉ user.toList) (password tail : String) :
    (sanitize (scheme ++ "://" ++ (user ++ ":" ++ password ++ "@" ++ tail))).toList =
      scheme.toList ++ "://".toList ++ (user.toList ++
        ':' :: (shownPassword password.toList ++ '@' :: shownBehind password.toList tail.toList)) := by
  rw [sanitize, String.toList_ofList, ← sanitizeChars_password cut name ampersat]
  simp

/-- The messages about two refused texts that differ in the password alone are the same if and only if the
scheme names no dialect or the same is seen of both passwords; nothing is seen of one without a slash. -/
theorem refused_alike_iff {scheme user tail password password' : String}
    (cut : ¬ "://".toList <:+: scheme.toList) (name : UserName user.toList)
    (ampersat : '@' ∉ user.toList) {fault fault' : Fault}
    (refused : parse (scheme ++ "://" ++ (user ++ ":" ++ password ++ "@" ++ tail)) = .error fault)
    (refused' : parse (scheme ++ "://" ++ (user ++ ":" ++ password' ++ "@" ++ tail)) =
      .error fault') :
    (fault.text = fault'.text ↔ (∀ dialect, Dialect.read scheme ≠ .ok dialect) ∨
      shownPassword password.toList = shownPassword password'.toList) ∧
    ('/' ∉ password.toList → '/' ∉ password'.toList → fault.text = fault'.text) := by
  have alike : fault.text = fault'.text ↔ (∀ dialect, Dialect.read scheme ≠ .ok dialect) ∨
      shownPassword password.toList = shownPassword password'.toList := by
    rcases refused_cases cut refused with unknown | ⟨dialect, known, rfl⟩
    · rcases refused_cases cut refused' with unknown' | ⟨dialect, known, -⟩
      · rw [unknown] at unknown'
        cases unknown'
        simp [unknown]
      · cases unknown.symm.trans known
    · rcases refused_cases cut refused' with unknown | ⟨dialect', known', rfl⟩
      · cases known.symm.trans unknown
      · cases known.symm.trans known'
        rw [invalid_text_eq_iff, ← String.toList_inj, toList_sanitize cut name ampersat,
          toList_sanitize cut name ampersat]
        simp [known, shown_eq_iff]
  refine ⟨alike, fun free free' => alike.mpr (.inr ?_)⟩
  rw [shownPassword, if_pos free, shownPassword, if_pos free']

/-- Marks of all kinds but the slash in one password, an empty host, and a port that is none. -/
theorem refused_alike_marked :
    ∃ fault fault', parse "postgres://app:pa?s@s:#9@:notaport/a@b" = .error fault ∧
      parse "postgres://app:x@:notaport/a@b" = .error fault' ∧ fault.text = fault'.text := by
  have text : "postgres" ++ "://" ++ ("app" ++ ":" ++ "pa?s@s:#9" ++ "@" ++ ":notaport/a@b") =
      "postgres://app:pa?s@s:#9@:notaport/a@b" := by cbv
  have text' : "postgres" ++ "://" ++ ("app" ++ ":" ++ "x" ++ "@" ++ ":notaport/a@b") =
      "postgres://app:x@:notaport/a@b" := by cbv
  have refused : parse "postgres://app:pa?s@s:#9@:notaport/a@b" =
      .error (invalid "postgres://app:pa?s@s:#9@:notaport/a@b" "postgres") := by cbv
  have refused' : parse "postgres://app:x@:notaport/a@b" =
      .error (invalid "postgres://app:x@:notaport/a@b" "postgres") := by cbv
  have cut : ¬ "://".toList <:+: "postgres".toList := not_infix_of_colon (by decide +kernel)
  have name : UserName "app".toList := by constructor <;> decide +kernel
  have alike := refused_alike_iff cut name (by decide +kernel) (text ▸ refused) (text' ▸ refused')
  exact ⟨_, _, refused, refused', alike.2 (by decide +kernel) (by decide +kernel)⟩

/-- A password with a slash in it is seen as it is. -/
theorem refused_slash_seen :
    ∃ fault fault', parse "postgres://app:pa/ss@db:5432/app" = .error fault ∧
      parse "postgres://app:wo/rd@db:5432/app" = .error fault' ∧
      fault.text = "Connection Uri \"postgres://app:pa/ss@db:5432/app\" provided for dialect postgres " ++
        "is not valid. Should be postgres://<connection>." ∧ fault.text ≠ fault'.text := by
  refine ⟨invalid "postgres://app:pa/ss@db:5432/app" "postgres",
    invalid "postgres://app:wo/rd@db:5432/app" "postgres", by cbv, by cbv, ?_, ?_⟩
  · rw [invalid_text]
    cbv
  · rw [ne_eq, invalid_text_eq_iff]
    decide +kernel

end TargetUri
end Passage
