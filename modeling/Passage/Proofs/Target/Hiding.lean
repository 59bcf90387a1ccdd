import Passage.Proofs.Target.Layout

namespace Passage

theorem credentials_cases (credentials : List Char) :
    (∃ user password, credentials = user ++ ':' :: password ∧ ':' ∉ user ∧
      TargetUri.readCredentials credentials = (user, some password) ∧
      hideIn credentials = user ++ ':' :: hiddenPassword.toList) ∨
    (TargetUri.readCredentials credentials = (credentials, none) ∧
      hideIn credentials = credentials) := by
  unfold TargetUri.readCredentials hideIn
  cases hs : Text.splitFirst ':' credentials with
  | none => exact .inr ⟨rfl, rfl⟩
  | some pair =>
    obtain ⟨user, password⟩ := pair
    obtain ⟨whole, free⟩ := Text.eq_append_of_splitFirst hs
    exact .inl ⟨user, password, whole, free, rfl, rfl⟩

theorem hideIn_append {user : List Char} (free : ':' ∉ user) (password : List Char) :
    hideIn (user ++ ':' :: password) = user ++ ':' :: hiddenPassword.toList := by
  rw [hideIn, Text.splitFirst_append free]

theorem hideIn_hideIn (credentials : List Char) :
    hideIn (hideIn credentials) = hideIn credentials := by
  rcases credentials_cases credentials with ⟨user, password, -, free, -, hidden⟩ | ⟨-, kept⟩
  · rw [hidden, hideIn_append free]
  · rw [kept, kept]

/-- The user stays in front of the colon. -/
theorem inQuery_hideIn (credentials : List Char) :
    InQuery (hideIn credentials) ↔ InQuery credentials := by
  rcases credentials_cases credentials with ⟨user, password, rfl, -, -, hidden⟩ | ⟨-, kept⟩
  · have colon : ':' ∈ user ++ [':'] := by simp
    rw [hidden, List.append_cons, List.append_cons user ':' password, inQuery_append colon,
      inQuery_append colon]
  · rw [kept]

theorem not_mem_hideIn {credentials : List Char} (noPath : '/' ∉ credentials) :
    '/' ∉ hideIn credentials := by
  rcases credentials_cases credentials with ⟨user, password, rfl, -, -, hidden⟩ | ⟨-, kept⟩
  · have clean : '/' ∉ hiddenPassword.toList := by decide +kernel
    rw [hidden]
    simp_all
  · rw [kept]
    exact noPath

/-- Hidden credentials end where the credentials ended. -/
theorem splitCredentials_hideIn {rest credentials after : List Char}
    (h : splitCredentials rest = some (credentials, after)) :
    splitCredentials (hideIn credentials ++ '@' :: after) = some (hideIn credentials, after) := by
  obtain ⟨-, noPath, last, named⟩ := splitCredentials_eq_some_iff.mp h
  exact splitCredentials_eq_some_iff.mpr
    ⟨rfl, not_mem_hideIn noPath, last, fun hc => named ((inQuery_hideIn credentials).mp hc)⟩

theorem sanitizeChars_of_none {uri scheme rest : List Char}
    (cut : Text.splitAround "://".toList uri = some (scheme, rest))
    (h : splitCredentials rest = none) : sanitizeChars uri = uri := by
  simp only [sanitizeChars, cut, h]

theorem sanitizeChars_of_some {uri scheme rest credentials after : List Char}
    (cut : Text.splitAround "://".toList uri = some (scheme, rest))
    (h : splitCredentials rest = some (credentials, after)) :
    sanitizeChars uri = scheme ++ "://".toList ++ (hideIn credentials ++ '@' :: after) := by
  simp only [sanitizeChars, cut, h, List.append_assoc]

theorem sanitizeChars_sanitizeChars (uri : List Char) :
    sanitizeChars (sanitizeChars uri) = sanitizeChars uri := by
  cases cut : Text.splitAround "://".toList uri with
  | none =>
    have kept : sanitizeChars uri = uri := by rw [sanitizeChars, cut]
    rw [kept, kept]
  | some pair =>
    obtain ⟨scheme, rest⟩ := pair
    cases hs : splitCredentials rest with
    | none =>
      have kept := sanitizeChars_of_none cut hs
      rw [kept, kept]
    | some pair =>
      obtain ⟨credentials, after⟩ := pair
      have hidden := sanitizeChars_of_some cut hs
      have cut' := Text.splitAround_replace cut (hideIn credentials ++ '@' :: after)
      rw [hidden, sanitizeChars_of_some cut' (splitCredentials_hideIn hs), hideIn_hideIn]

namespace TargetUri

/-- Where the password of a URI stands: behind the scheme, the user and a colon, and in front of the
`@` of the address. -/
structure PasswordAt (uri : TargetUri) (before password after : String) : Prop where
  password_eq : uri.password = some password
  before_eq : ∃ scheme user, uri.user = some user ∧ before = scheme ++ "://" ++ user ++ ":"
  lead_eq : uri.lead = before ++ password ++ "@"
  after_eq : after = "@" ++ uri.authority ++ uri.tail

theorem PasswordAt.raw {uri : TargetUri} {before password after : String}
    (h : uri.PasswordAt before password after) : uri.raw = before ++ password ++ after := by
  rw [TargetUri.raw, h.lead_eq, h.after_eq]
  simp only [String.append_assoc]

theorem PasswordAt.unique {uri : TargetUri} {before password after before' password' after' : String}
    (h : uri.PasswordAt before password after) (h' : uri.PasswordAt before' password' after') :
    before = before' ∧ password = password' ∧ after = after' := by
  have same : password = password' := Option.some.inj (h.password_eq.symm.trans h'.password_eq)
  subst same
  have lead : before ++ password ++ "@" = before' ++ password ++ "@" :=
    h.lead_eq.symm.trans h'.lead_eq
  have front : before = before' := by
    simpa [← String.toList_inj] using lead
  exact ⟨front, rfl, h.after_eq.trans h'.after_eq.symm⟩

theorem Written.password_cases {text : String} {uri : TargetUri} {scheme : List Char} {l : Layout}
    (h : Written text uri scheme l) :
    (uri.password = none ∧ sanitize text = text) ∨
      ∃ before password after, uri.PasswordAt before password after ∧
        sanitize text = before ++ hiddenPassword ++ after := by
  have marked := h.sound.credentials
  have password : uri.password =
      l.login.bind fun login => login.2.map String.ofList := by rw [h.means]; rfl
  have user : uri.user = l.login.map fun login => String.ofList login.1 := by rw [h.means]; rfl
  cases hc : l.credentials with
  | none =>
    rw [hc] at marked
    refine .inl ⟨by rw [password, Layout.login, hc]; rfl, ?_⟩
    rw [sanitize, sanitizeChars_of_none h.cut marked, String.ofList_toList]
  | some credentials =>
    rw [hc] at marked
    have hidden := sanitizeChars_of_some h.cut marked
    have lead := h.lead
    rw [Layout.lead, hc] at lead
    rcases credentials_cases credentials with ⟨name, secret, rfl, -, read, cover⟩ | ⟨read, kept⟩
    · refine .inr ⟨String.ofList (scheme ++ "://".toList ++ name ++ [':']), String.ofList secret,
        "@" ++ uri.authority ++ uri.tail, ⟨?_, ?_, ?_, rfl⟩, ?_⟩
      · rw [password, Layout.login, hc, Option.map_some, read]
        rfl
      · refine ⟨String.ofList scheme, String.ofList name, ?_, ?_⟩
        · rw [user, Layout.login, hc, Option.map_some, read]
          rfl
        · simp [← String.toList_inj]
      · rw [← String.toList_inj, lead]
        simp
      · rw [sanitize, hidden, cover, ← String.toList_inj]
        simp [h.authority, h.tail, Layout.address]
    · refine .inl ⟨by rw [password, Layout.login, hc, Option.map_some, read]; rfl, ?_⟩
      rw [sanitize, hidden, kept, ← String.toList_inj, String.toList_ofList, h.toList, Layout.text,
        Layout.lead, hc]
      simp

/-- What an accepted text with a password shows is the text around it. -/
theorem PasswordAt.sanitize {text : String} {uri : TargetUri} {before password after : String}
    (read : parse text = .ok uri) (h : uri.PasswordAt before password after) :
    Passage.sanitize text = before ++ hiddenPassword ++ after := by
  obtain ⟨scheme, l, written⟩ := parse_eq_ok_iff.mp read
  rcases written.password_cases with ⟨without, -⟩ | ⟨b, p, a, there, hidden⟩
  · rw [h.password_eq] at without
    cases without
  · obtain ⟨rfl, -, rfl⟩ := there.unique h
    exact hidden

/-- Hiding twice hides no more than hiding once. What hiding takes out of an accepted text is the
password that is read from it, and nothing is taken out of a text without one; so URIs that differ in
nothing but their passwords are shown alike, in messages and in diagnostic text. -/
theorem sanitize_password :
    (∀ text, sanitize (sanitize text) = sanitize text) ∧
    (∀ text uri, parse text = .ok uri →
      uri.raw = text ∧
      (uri.password = none → sanitize text = text) ∧
      ∀ password, uri.password = some password →
        ∃ before after, uri.PasswordAt before password after ∧ text = before ++ password ++ after ∧
          sanitize text = before ++ hiddenPassword ++ after) ∧
    ∀ text text' uri uri' before after password password',
      parse text = .ok uri → parse text' = .ok uri' →
      uri.PasswordAt before password after → uri'.PasswordAt before password' after →
      uri.sanitized = uri'.sanitized ∧ uri.debug = uri'.debug := by
  refine ⟨?_, ?_, ?_⟩
  · intro text
    rw [sanitize, sanitize, String.toList_ofList, sanitizeChars_sanitizeChars]
  · intro text uri read
    obtain ⟨scheme, l, written⟩ := parse_eq_ok_iff.mp read
    refine ⟨written.raw, ?_⟩
    rcases written.password_cases with ⟨without, kept⟩ | ⟨before, password, after, there, hidden⟩
    · refine ⟨fun _ => kept, ?_⟩
      intro password held
      rw [without] at held
      cases held
    · constructor
      · intro without
        rw [there.password_eq] at without
        cases without
      · intro password' held
        cases there.password_eq.symm.trans held
        exact ⟨before, after, there, written.raw.symm.trans there.raw, hidden⟩
  · intro text text' uri uri' before after password password' read read' there there'
    obtain ⟨_, _, written⟩ := parse_eq_ok_iff.mp read
    obtain ⟨_, _, written'⟩ := parse_eq_ok_iff.mp read'
    have shown : uri.sanitized = uri'.sanitized := by
      rw [sanitized, sanitized, written.raw, written'.raw, there.sanitize read,
        there'.sanitize read']
    exact ⟨shown, by rw [debug, debug, shown]⟩

/-- Marks of all kinds in the password, in the user and in the query. -/
theorem sanitize_password_marked :
    ∃ uri uri', parse "mssql://s@a:p@s:s?#@[::1]:1433/m?a=b:c@d" = .ok uri ∧
      parse "mssql://s@a:@[::1]:1433/m?a=b:c@d" = .ok uri' ∧
      uri.PasswordAt "mssql://s@a:" "p@s:s?#" "@[::1]:1433/m?a=b:c@d" ∧
      uri'.PasswordAt "mssql://s@a:" "" "@[::1]:1433/m?a=b:c@d" ∧
      uri.sanitized = uri'.sanitized ∧ uri.debug = uri'.debug := by
  have read : parse "mssql://s@a:p@s:s?#@[::1]:1433/m?a=b:c@d" = .ok
      { lead := "mssql://s@a:p@s:s?#@", authority := "[::1]:1433", tail := "/m?a=b:c@d",
        dialect := .mssql, user := some "s@a", password := some "p@s:s?#", host := "::1",
        port := some 1433, database := some "m", query := "a=b:c@d" } := by cbv
  have read' : parse "mssql://s@a:@[::1]:1433/m?a=b:c@d" = .ok
      { lead := "mssql://s@a:@", authority := "[::1]:1433", tail := "/m?a=b:c@d",
        dialect := .mssql, user := some "s@a", password := some "", host := "::1",
        port := some 1433, database := some "m", query := "a=b:c@d" } := by cbv
  refine ⟨_, _, read, read', ?there, ?there',
    sanitize_password.2.2 _ _ _ _ _ _ _ _ read read' ?there ?there'⟩
  case there => exact ⟨rfl, ⟨"mssql", "s@a", rfl, by cbv⟩, by cbv, by cbv⟩
  case there' => exact ⟨rfl, ⟨"mssql", "s@a", rfl, by cbv⟩, by cbv, by cbv⟩

end TargetUri
end Passage
