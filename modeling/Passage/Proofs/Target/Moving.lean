import Passage.Proofs.Target.Layout

namespace Passage

/-- A host that can be written into a URI: it is not empty and holds none of the marks that divide
one. A colon is no such mark, since brackets keep it apart. -/
structure HostName (host : List Char) : Prop where
  nonempty : host ≠ []
  slash : '/' ∉ host
  question : '?' ∉ host
  ampersat : '@' ∉ host
  opening : '[' ∉ host
  closing : ']' ∉ host

theorem toList_authorityText (host : String) (port : UInt16) :
    (authorityText host (some port)).toList =
      if ':' ∈ host.toList then '[' :: (host.toList ++ ']' :: ':' :: (toString port.toNat).toList)
      else host.toList ++ ':' :: (toString port.toNat).toList := by
  simp only [authorityText, bracketed]
  split <;> simp

theorem colon_mem_authorityText (host : String) (port : UInt16) :
    ':' ∈ (authorityText host (some port)).toList := by
  rw [toList_authorityText]
  split <;> simp

theorem not_mem_authorityText {host : String} {c : Char} (free : c ∉ host.toList)
    (form : c ∉ ['[', ']', ':']) (digit : c.isDigit = false) (port : UInt16) :
    c ∉ (authorityText host (some port)).toList := by
  have noDigit : c ∉ (toString port.toNat).toList := by
    intro hc
    rw [Text.isDigit_of_mem_toString hc] at digit
    cases digit
  rw [toList_authorityText]
  split <;> simp_all

/-- The first colon of an address follows the host, or stands in it behind the bracket. -/
theorem inQuery_authorityText {host : String} (question : '?' ∉ host.toList) (port : UInt16) :
    InQuery (authorityText host (some port)).toList ↔ '#' ∈ host.toList.takeWhile (· ≠ ':') := by
  have noQuestion : '?' ∉ host.toList.takeWhile (· ≠ ':') :=
    fun hc => question (List.takeWhile_subset _ hc)
  rw [InQuery, toList_authorityText]
  split
  · rename_i colon
    rw [List.takeWhile_cons_of_pos (by decide), takeWhile_ne_append_of_mem colon]
    simp only [List.mem_cons, Char.reduceEq, noQuestion, false_or]
  · rename_i noColon
    have whole : host.toList.takeWhile (· ≠ ':') = host.toList := by
      simpa using takeWhile_ne_append noColon []
    rw [takeWhile_ne_append noColon, List.takeWhile_cons_of_neg (by decide), List.append_nil, whole]
    simp only [question, false_or]

theorem TargetUri.authorityPort?_toString {port : UInt16} (h : port ≠ 0) :
    authorityPort? (toString port.toNat).toList = some port := by
  have bound : port.toNat ≤ 65535 := Nat.le_of_lt_succ port.toNat_lt
  rw [authorityPort?, Text.port?, Text.numeral?_toString bound, Option.map_some, UInt16.ofNat_toNat,
    Option.filter_some, if_pos (by simpa using h)]

/-- An address is read back from its written form. -/
theorem HostName.readAuthority {host : String} (name : HostName host.toList) {port : UInt16}
    (h : port ≠ 0) :
    TargetUri.readAuthority (authorityText host (some port)).toList =
      some (host.toList, some port) := by
  have noColon : ':' ∉ (toString port.toNat).toList := by
    intro hc
    exact absurd (Text.isDigit_of_mem_toString hc) (by decide)
  have read := TargetUri.authorityPort?_toString h
  have noClosing : ']' ∉ host.toList := name.closing
  have noOpening : '[' ∉ host.toList := name.opening
  rw [toList_authorityText]
  cases hh : host.toList with
  | nil => exact absurd hh name.nonempty
  | cons c cs =>
    rw [hh] at noClosing noOpening
    split
    · simp only [TargetUri.readAuthority, Text.splitFirst_append noClosing, read, Option.map_some]
    · have plain : c ≠ '[' := fun he => noOpening (he ▸ List.mem_cons_self)
      have cut : Text.splitLast ':' (c :: cs ++ ':' :: (toString port.toNat).toList) =
          some (c :: cs, (toString port.toNat).toList) := Text.splitLast_append noColon
      unfold TargetUri.readAuthority
      split
      · rename_i he
        cases he
        exact absurd rfl plain
      · rw [cut]
        simp only [read, Option.map_some]

/-- Behind a text with a colon but without an `@` the credentials stay absent, unless there is an `@`
in front of the path and nothing in the text makes it part of a query. -/
theorem splitCredentials_append_eq_none_iff {address : List Char} (slash : '/' ∉ address)
    (ampersat : '@' ∉ address) (colon : ':' ∈ address) (rest : List Char) :
    splitCredentials (address ++ rest) = none ↔
      '@' ∉ rest.takeWhile (· ≠ '/') ∨ InQuery address := by
  by_cases held : '@' ∈ rest.takeWhile (· ≠ '/')
  · obtain ⟨before, after, rfl, noPath, last⟩ := exists_last_at held
    have noPath' : '/' ∉ address ++ before := by simp [slash, noPath]
    rw [← List.append_assoc, splitCredentials_append noPath' last]
    simp only [held, not_true_eq_false, false_or, ← inQuery_append colon before]
    split <;> simp_all
  · have absent : '@' ∉ (address ++ rest).takeWhile (· ≠ '/') := by
      rw [takeWhile_ne_append slash, List.mem_append]
      exact not_or.mpr ⟨ampersat, held⟩
    simp only [splitCredentials_of_not_mem absent, held, not_false_eq_true, true_or]

namespace Layout

def moveTo (l : Layout) (authority : List Char) : Layout :=
  { l with authority }

theorem Sound.moveTo {l : Layout} (h : l.Sound) {authority : List Char} (slash : '/' ∉ authority)
    (question : '?' ∉ authority)
    (split : splitCredentials (l.moveTo authority).text =
      l.credentials.map (·, (l.moveTo authority).address)) : (l.moveTo authority).Sound :=
  ⟨split, slash, question, h.path, h.path_query, h.query⟩

/-- An address in the form `host:port` can always be put behind credentials. Without credentials the
rest must have no `@` that could end some, or the host must hold back all of them. -/
theorem Sound.moveTo_iff {l : Layout} (h : l.Sound) {authority : List Char}
    (slash : '/' ∉ authority) (question : '?' ∉ authority) (ampersat : '@' ∉ authority)
    (colon : ':' ∈ authority) :
    (l.moveTo authority).Sound ↔ l.credentials.isSome = true ∨
      '@' ∉ (l.path ++ l.query).takeWhile (· ≠ '/') ∨ InQuery authority := by
  have marked := h.credentials
  have address : (l.moveTo authority).address = authority ++ (l.path ++ l.query) :=
    List.append_assoc _ _ _
  cases hc : l.credentials with
  | some credentials =>
    rw [hc, Option.map_some] at marked
    obtain ⟨-, noPath, last, named⟩ := splitCredentials_eq_some_iff.mp marked
    rw [Layout.address, List.append_assoc, takeWhile_ne_append h.authority_path, List.mem_append,
      not_or] at last
    have last' : '@' ∉ (l.moveTo authority).address.takeWhile (· ≠ '/') := by
      rw [address, takeWhile_ne_append slash, List.mem_append]
      exact not_or.mpr ⟨ampersat, last.2⟩
    have text : (l.moveTo authority).text =
        credentials ++ '@' :: (l.moveTo authority).address := by
      rw [Layout.text, Layout.lead, Layout.moveTo, hc]
      exact (List.append_cons _ _ _).symm
    simp only [Option.isSome_some, true_or, iff_true]
    apply h.moveTo slash question
    rw [text, hc, splitCredentials_append noPath last', if_neg named]
    rfl
  | none =>
    have text : (l.moveTo authority).text = authority ++ (l.path ++ l.query) := by
      rw [Layout.text, Layout.lead, address, Layout.moveTo, hc]
      rfl
    simp only [Option.isSome_none, Bool.false_eq_true, false_or]
    rw [← splitCredentials_append_eq_none_iff slash ampersat colon, ← text]
    constructor
    · intro sound
      rw [sound.credentials, Layout.moveTo, hc]
      rfl
    · intro absent
      apply h.moveTo slash question
      rw [absent, hc]
      rfl

end Layout

namespace TargetUri

variable {text : String} {uri : TargetUri} {scheme : List Char} {l : Layout}

theorem Written.isSome_user (h : Written text uri scheme l) :
    uri.user.isSome = l.credentials.isSome := by
  rw [h.means]
  simp [Layout.uri, Layout.login]

theorem Written.moveTo_toList (h : Written text uri scheme l) (host : String) (port : UInt16) :
    (uri.moveTo host port).raw.toList =
      scheme ++ "://".toList ++ (l.moveTo (authorityText host (some port)).toList).text := by
  rw [TargetUri.raw, TargetUri.moveTo, String.toList_append, String.toList_append, h.lead, h.tail]
  simp only [Layout.text, Layout.address, Layout.moveTo, Layout.lead, List.append_assoc]

/-- A moved URI is written down by the moved layout, if that is sound. -/
theorem Written.moveTo (h : Written text uri scheme l) {host : String} {port : UInt16}
    (name : HostName host.toList) (nonzero : port ≠ 0)
    (sound : (l.moveTo (authorityText host (some port)).toList).Sound) :
    Written (uri.moveTo host port).raw (uri.moveTo host port) scheme
      (l.moveTo (authorityText host (some port)).toList) where
  cut := by
    rw [h.moveTo_toList]
    exact Text.splitAround_replace h.cut _
  dialect := h.dialect
  sound := sound
  named := h.named
  address := name.readAuthority nonzero
  means := by
    conv => lhs; rw [h.means]
    simp [TargetUri.moveTo, Layout.uri, Layout.moveTo, Layout.login, Layout.lead]

/-- A moved URI is what its text says, unless the text says more: without credentials of its own, an
`@` in front of a slash ends credentials that begin with the new host, if no `#` in the host keeps it
from that. -/
theorem parse_moveTo_iff (read : parse text = .ok uri) {host : String} {port : UInt16}
    (name : HostName host.toList) (nonzero : port ≠ 0) :
    parse (uri.moveTo host port).raw = .ok (uri.moveTo host port) ↔
      uri.user.isSome = true ∨ '@' ∉ uri.tail.toList.takeWhile (· ≠ '/') ∨
        '#' ∈ host.toList.takeWhile (· ≠ ':') := by
  obtain ⟨scheme, l, h⟩ := parse_eq_ok_iff.mp read
  have absent {mark : Char} (free : mark ∉ host.toList) (form : mark ∉ ['[', ']', ':'])
      (digit : mark.isDigit = false) := not_mem_authorityText free form digit port
  have slash := absent name.slash (by decide) (by decide)
  have question := absent name.question (by decide) (by decide)
  have ampersat := absent name.ampersat (by decide) (by decide)
  have sound_iff := h.sound.moveTo_iff slash question ampersat (colon_mem_authorityText host port)
  rw [h.isSome_user, h.tail, ← inQuery_authorityText name.question port, ← sound_iff]
  constructor
  · intro again
    obtain ⟨scheme', l', h'⟩ := parse_eq_ok_iff.mp again
    have cut := h'.cut
    rw [h.moveTo_toList, Text.splitAround_replace h.cut] at cut
    have text : (l.moveTo (authorityText host (some port)).toList).text = l'.text :=
      congrArg Prod.snd (Option.some.inj cut)
    have credentials : l'.credentials.isSome = l.credentials.isSome :=
      h'.isSome_user.symm.trans h.isSome_user
    cases hc : l.credentials with
    | some known => exact sound_iff.mpr (.inl (by rw [hc]; rfl))
    | none =>
      rw [hc, Option.isSome_none, Option.isSome_eq_false_iff,
        Option.isNone_iff_eq_none] at credentials
      apply h.sound.moveTo slash question
      rw [text, h'.sound.credentials, credentials, hc]
      rfl
  · intro sound
    exact parse_eq_ok_iff.mpr ⟨scheme, _, h.moveTo name nonzero sound⟩

/-- A query may hold an `@` where there is a path, and a password may hold anything but a slash. -/
theorem parse_moveTo_marked :
    ∃ uri, parse "postgres://app:p?a#s@db/app?x=a@b" = .ok uri ∧ HostName "::1".toList ∧
      (40123 : UInt16) ≠ 0 ∧ parse (uri.moveTo "::1" 40123).raw = .ok (uri.moveTo "::1" 40123) := by
  have read : parse "postgres://app:p?a#s@db/app?x=a@b" = .ok
      { lead := "postgres://app:p?a#s@", authority := "db", tail := "/app?x=a@b",
        dialect := .postgres, user := some "app", password := some "p?a#s", host := "db",
        port := none, database := some "app", query := "x=a@b" } := by cbv
  have name : HostName "::1".toList := by constructor <;> decide +kernel
  exact ⟨_, read, name, by decide, (parse_moveTo_iff read name (by decide)).mpr (.inl rfl)⟩

/-- Without a path the new host becomes a user, and the query gives the password and the host. -/
theorem parse_moveTo_query :
    ∃ uri, parse "postgres://db?application_name=a@b" = .ok uri ∧ HostName "127.0.0.1".toList ∧
      (uri.moveTo "127.0.0.1" 40123).user = none ∧
      ∃ other, parse (uri.moveTo "127.0.0.1" 40123).raw = .ok other ∧
        other.user = some "127.0.0.1" ∧ other.password = some "40123?application_name=a" ∧
        other.host = "b" ∧
        parse (uri.moveTo "127.0.0.1" 40123).raw ≠ .ok (uri.moveTo "127.0.0.1" 40123) := by
  have read : parse "postgres://db?application_name=a@b" = .ok
      { lead := "postgres://", authority := "db", tail := "?application_name=a@b",
        dialect := .postgres, user := none, password := none, host := "db",
        port := none, database := none, query := "application_name=a@b" } := by cbv
  have again : parse "postgres://127.0.0.1:40123?application_name=a@b" = .ok
      { lead := "postgres://127.0.0.1:40123?application_name=a@", authority := "b", tail := "",
        dialect := .postgres, user := some "127.0.0.1",
        password := some "40123?application_name=a", host := "b", port := none, database := none,
        query := "" } := by cbv
  refine ⟨_, read, by constructor <;> decide +kernel, rfl, _, again, rfl, rfl, rfl, ?_⟩
  intro same
  have users := congrArg (fun r => r.toOption.bind TargetUri.user) (again.symm.trans same)
  cases users

end TargetUri
end Passage
