import Mathlib
import Passage.Target.Uri

namespace Passage

theorem not_mem_takeWhile_ne (mark : Char) (text : List Char) :
    mark ∉ text.takeWhile (· ≠ mark) := by
  intro h
  simpa using List.mem_takeWhile_imp h

theorem takeWhile_ne_append {mark : Char} {before : List Char} (free : mark ∉ before)
    (rest : List Char) :
    (before ++ rest).takeWhile (· ≠ mark) = before ++ rest.takeWhile (· ≠ mark) :=
  List.takeWhile_append_of_pos fun _ hc => decide_eq_true fun he => free (he ▸ hc)

theorem dropWhile_ne_append {mark : Char} {before : List Char} (free : mark ∉ before)
    (rest : List Char) :
    (before ++ rest).dropWhile (· ≠ mark) = rest.dropWhile (· ≠ mark) :=
  List.dropWhile_append_of_pos fun _ hc => decide_eq_true fun he => free (he ▸ hc)

theorem takeWhile_ne_append_of_mem {mark : Char} {before : List Char} (held : mark ∈ before)
    (rest : List Char) :
    (before ++ rest).takeWhile (· ≠ mark) = before.takeWhile (· ≠ mark) := by
  rw [List.takeWhile_append, if_neg]
  intro whole
  have all := (List.takeWhile_prefix fun c : Char => decide (c ≠ mark)).eq_of_length whole
  rw [← all] at held
  exact not_mem_takeWhile_ne mark before held

/-- A part of a text that is empty or begins with its mark. -/
def Opens (mark : Char) (part : List Char) : Prop :=
  part = [] ∨ ∃ rest, part = mark :: rest

theorem Opens.takeWhile_ne {mark : Char} {part : List Char} (h : Opens mark part) :
    part.takeWhile (· ≠ mark) = [] := by
  rcases h with rfl | ⟨rest, rfl⟩ <;> simp

theorem Opens.dropWhile_ne {mark : Char} {part : List Char} (h : Opens mark part) :
    part.dropWhile (· ≠ mark) = part := by
  rcases h with rfl | ⟨rest, rfl⟩ <;> simp

theorem opens_dropWhile_ne (mark : Char) (text : List Char) :
    Opens mark (text.dropWhile (· ≠ mark)) := by
  have first := List.head?_dropWhile_not (fun c : Char => decide (c ≠ mark)) text
  cases hd : text.dropWhile (· ≠ mark) with
  | nil => exact .inl rfl
  | cons c rest =>
    rw [hd] at first
    have hc : c = mark := by simpa using first
    exact .inr ⟨rest, by rw [hc]⟩

theorem TargetUri.cutBefore_append {mark : Char} {before part : List Char} (free : mark ∉ before)
    (opens : Opens mark part) : cutBefore mark (before ++ part) = (before, part) := by
  rw [cutBefore, takeWhile_ne_append free, dropWhile_ne_append free, opens.takeWhile_ne,
    opens.dropWhile_ne, List.append_nil]

/-- Whether a `?` or a `#` stands before the first colon. An `@` behind such a text belongs to a
query. -/
def InQuery (text : List Char) : Prop :=
  '?' ∈ text.takeWhile (· ≠ ':') ∨ '#' ∈ text.takeWhile (· ≠ ':')

instance (text : List Char) : Decidable (InQuery text) :=
  inferInstanceAs (Decidable (_ ∨ _))

/-- Only what stands before the first colon counts. -/
theorem inQuery_append {text : List Char} (colon : ':' ∈ text) (more : List Char) :
    InQuery (text ++ more) ↔ InQuery text := by
  rw [InQuery, InQuery, takeWhile_ne_append_of_mem colon]

/-- An `@` in front of the path is there for the last time somewhere. -/
theorem exists_last_at {rest : List Char} (h : '@' ∈ rest.takeWhile (· ≠ '/')) :
    ∃ before after, rest = before ++ '@' :: after ∧ '/' ∉ before ∧
      '@' ∉ after.takeWhile (· ≠ '/') := by
  cases hs : Text.splitLast '@' (rest.takeWhile (· ≠ '/')) with
  | none => exact absurd h (Text.splitLast_eq_none_iff.mp hs)
  | some pair =>
    obtain ⟨before, after⟩ := pair
    obtain ⟨head, last⟩ := Text.eq_append_of_splitLast hs
    have noPath : '/' ∉ before ++ '@' :: after := head ▸ not_mem_takeWhile_ne '/' rest
    have noPathAfter : '/' ∉ after := fun hc => noPath (by simp [hc])
    have whole : rest = before ++ '@' :: (after ++ rest.dropWhile (· ≠ '/')) :=
      calc rest = rest.takeWhile (· ≠ '/') ++ rest.dropWhile (· ≠ '/') :=
            List.takeWhile_append_dropWhile.symm
        _ = before ++ '@' :: (after ++ rest.dropWhile (· ≠ '/')) := by rw [head]; simp
    refine ⟨before, after ++ rest.dropWhile (· ≠ '/'), whole, fun hc => noPath (by simp [hc]), ?_⟩
    rw [takeWhile_ne_append noPathAfter, (opens_dropWhile_ne '/' rest).takeWhile_ne]
    simpa using last

/-- An `@` in front of the path stays there when the path is cut off. -/
theorem at_cutPath {before : List Char} (noPath : '/' ∉ before) (after : List Char) :
    (before ++ '@' :: after).takeWhile (· ≠ '/') = before ++ '@' :: after.takeWhile (· ≠ '/') ∧
      (before ++ '@' :: after).dropWhile (· ≠ '/') = after.dropWhile (· ≠ '/') := by
  have noPath' : '/' ∉ before ++ ['@'] := by simpa using noPath
  constructor
  · rw [List.append_cons, takeWhile_ne_append noPath', ← List.append_cons]
  · rw [List.append_cons, dropWhile_ne_append noPath']

theorem splitCredentials_of_not_mem {rest : List Char} (h : '@' ∉ rest.takeWhile (· ≠ '/')) :
    splitCredentials rest = none := by
  rw [splitCredentials, Text.splitLast_eq_none_iff.mpr h]

/-- The last `@` in front of the path ends the credentials, unless it belongs to a query. -/
theorem splitCredentials_append {credentials after : List Char} (noPath : '/' ∉ credentials)
    (last : '@' ∉ after.takeWhile (· ≠ '/')) :
    splitCredentials (credentials ++ '@' :: after) =
      if InQuery credentials then none else some (credentials, after) := by
  obtain ⟨head, path⟩ := at_cutPath noPath after
  rw [splitCredentials, head, Text.splitLast_append last, path]
  change (if InQuery credentials then none else
    some (credentials, after.takeWhile (· ≠ '/') ++ after.dropWhile (· ≠ '/'))) = _
  rw [List.takeWhile_append_dropWhile]

theorem splitCredentials_eq_some_iff {rest credentials after : List Char} :
    splitCredentials rest = some (credentials, after) ↔
      rest = credentials ++ '@' :: after ∧ '/' ∉ credentials ∧
        '@' ∉ after.takeWhile (· ≠ '/') ∧ ¬ InQuery credentials := by
  constructor
  · intro h
    by_cases held : '@' ∈ rest.takeWhile (· ≠ '/')
    · obtain ⟨before, behind, rfl, noPath, last⟩ := exists_last_at held
      rw [splitCredentials_append noPath last] at h
      split at h
      · cases h
      · rename_i named
        cases h
        exact ⟨rfl, noPath, last, named⟩
    · rw [splitCredentials_of_not_mem held] at h
      cases h
  · rintro ⟨rfl, noPath, last, named⟩
    rw [splitCredentials_append noPath last, if_neg named]

/-- How what follows the scheme is made up. -/
structure Layout where
  /-- `user[:password]`, without the `@` that ends it. -/
  credentials : Option (List Char)
  authority : List Char
  /-- Nothing, or a slash and a database. -/
  path : List Char
  query : List Char

namespace Layout

def address (l : Layout) : List Char :=
  l.authority ++ l.path ++ l.query

def lead (l : Layout) : List Char :=
  (l.credentials.map (· ++ ['@'])).getD []

def text (l : Layout) : List Char :=
  l.lead ++ l.address

def login (l : Layout) : Option (List Char × Option (List Char)) :=
  l.credentials.map TargetUri.readCredentials

/-- Each part ends where it is said to end. -/
structure Sound (l : Layout) : Prop where
  credentials : splitCredentials l.text = l.credentials.map (·, l.address)
  authority_path : '/' ∉ l.authority
  authority_query : '?' ∉ l.authority
  path : Opens '/' l.path
  path_query : '?' ∉ l.path
  query : Opens '?' l.query

/-- What a layout says about a connection, once its address is read. -/
def uri (l : Layout) (scheme : List Char) (dialect : Dialect) (host : List Char)
    (port : Option UInt16) : TargetUri where
  lead := String.ofList (scheme ++ "://".toList ++ l.lead)
  authority := String.ofList l.authority
  tail := String.ofList (l.path ++ l.query)
  dialect
  user := l.login.map fun (user, _) => String.ofList user
  password := l.login.bind fun (_, password) => password.map String.ofList
  host := String.ofList host
  port
  database := if l.path.length ≤ 1 then none else some (String.ofList (l.path.drop 1))
  query := String.ofList (l.query.drop 1)

def cut (credentials : Option (List Char)) (rest : List Char) : Layout :=
  let beforeQuery := rest.takeWhile (· ≠ '?')
  { credentials
    authority := beforeQuery.takeWhile (· ≠ '/')
    path := beforeQuery.dropWhile (· ≠ '/')
    query := rest.dropWhile (· ≠ '?') }

theorem cut_address (credentials : Option (List Char)) (rest : List Char) :
    (cut credentials rest).address = rest := by
  simp only [address, cut, List.takeWhile_append_dropWhile]

theorem cut_sound {credentials : Option (List Char)} {rest : List Char}
    (h : splitCredentials (cut credentials rest).text = credentials.map (·, rest)) :
    (cut credentials rest).Sound := by
  have noQuery := not_mem_takeWhile_ne '?' rest
  refine ⟨?_, not_mem_takeWhile_ne '/' _, ?_, opens_dropWhile_ne '/' _, ?_,
    opens_dropWhile_ne '?' _⟩
  · rw [h, cut_address]
    rfl
  · exact fun hc => noQuery (List.takeWhile_subset _ hc)
  · exact fun hc => noQuery (List.dropWhile_subset _ hc)

/-- Every text has a sound layout. -/
theorem exists_sound (rest : List Char) : ∃ l : Layout, l.Sound ∧ l.text = rest := by
  cases hs : splitCredentials rest with
  | none =>
    have text : (cut none rest).text = rest := cut_address none rest
    exact ⟨cut none rest, cut_sound (by rw [text, hs]; rfl), text⟩
  | some pair =>
    obtain ⟨credentials, after⟩ := pair
    have text : (cut (some credentials) after).text = rest := by
      rw [Layout.text, cut_address, (splitCredentials_eq_some_iff.mp hs).1]
      exact (List.append_cons credentials '@' after).symm
    exact ⟨cut (some credentials) after, cut_sound (by rw [text, hs]; rfl), text⟩

theorem Sound.readConnection {l : Layout} (h : l.Sound) (scheme : List Char) (dialect : Dialect) :
    TargetUri.readConnection scheme dialect l.text =
      match TargetUri.readAuthority l.authority with
      | none => none
      | some (host, port) =>
        if l.login.map Prod.fst = some [] then none else some (l.uri scheme dialect host port) := by
  have noQuery : '?' ∉ l.authority ++ l.path := by
    simp [h.authority_query, h.path_query]
  have query : TargetUri.cutBefore '?' l.address = (l.authority ++ l.path, l.query) :=
    TargetUri.cutBefore_append noQuery h.query
  have path : TargetUri.cutBefore '/' (l.authority ++ l.path) = (l.authority, l.path) :=
    TargetUri.cutBefore_append h.authority_path h.path
  have credentials := h.credentials
  cases hc : l.credentials with
  | none =>
    have text : l.text = l.address := by rw [Layout.text, Layout.lead, hc]; rfl
    rw [hc, text] at credentials
    rcases ha : TargetUri.readAuthority l.authority with _ | ⟨host, port⟩ <;>
      simp only [TargetUri.readConnection, text, credentials, Option.map_none, query, path, uri,
        login, Layout.lead, hc, ha]
  | some written =>
    rw [hc] at credentials
    rcases ha : TargetUri.readAuthority l.authority with _ | ⟨host, port⟩ <;>
      simp only [TargetUri.readConnection, credentials, Option.map_some, query, path, uri, login,
        Layout.lead, hc, ha]

theorem Sound.readConnection_eq_some_iff {l : Layout} (h : l.Sound) {scheme : List Char}
    {dialect : Dialect} {uri : TargetUri} :
    TargetUri.readConnection scheme dialect l.text = some uri ↔
      l.login.map Prod.fst ≠ some [] ∧
        TargetUri.readAuthority l.authority = some (uri.host.toList, uri.port) ∧
        uri = l.uri scheme dialect uri.host.toList uri.port := by
  rw [h.readConnection]
  cases ha : TargetUri.readAuthority l.authority with
  | none => simp
  | some pair =>
    obtain ⟨host, port⟩ := pair
    by_cases named : l.login.map Prod.fst = some []
    · simp [named]
    · simp only [named, if_false, Option.some.injEq, ne_eq, not_false_eq_true, true_and,
        Prod.mk.injEq]
      constructor
      · rintro rfl
        have host_eq : (l.uri scheme dialect host port).host.toList = host := String.toList_ofList
        exact ⟨⟨host_eq.symm, rfl⟩, by rw [host_eq]; rfl⟩
      · rintro ⟨⟨rfl, rfl⟩, means⟩
        exact means.symm

end Layout

namespace TargetUri

/-- The text writes down the connection: behind a scheme that names the dialect stands a layout whose
parts say what the connection says. -/
structure Written (text : String) (uri : TargetUri) (scheme : List Char) (l : Layout) : Prop where
  cut : Text.splitAround "://".toList text.toList = some (scheme, l.text)
  dialect : Dialect.read (String.ofList scheme) = .ok uri.dialect
  sound : l.Sound
  named : l.login.map Prod.fst ≠ some []
  address : readAuthority l.authority = some (uri.host.toList, uri.port)
  means : uri = l.uri scheme uri.dialect uri.host.toList uri.port

/-- A text is accepted exactly if it writes down a connection. -/
theorem parse_eq_ok_iff {text : String} {uri : TargetUri} :
    parse text = .ok uri ↔ ∃ scheme l, Written text uri scheme l := by
  constructor
  · intro h
    unfold parse at h
    dsimp only at h
    split at h
    · cases h
    · rename_i scheme rest hcut
      split at h
      · cases h
      · rename_i dialect hdialect
        obtain ⟨l, sound, rfl⟩ := Layout.exists_sound rest
        split at h
        · rename_i read
          cases h
          obtain ⟨named, address, means⟩ := sound.readConnection_eq_some_iff.mp read
          have same : uri.dialect = dialect := by rw [means]; rfl
          exact ⟨scheme, l, hcut, same ▸ hdialect, sound, named, address, same ▸ means⟩
        · cases h
  · rintro ⟨scheme, l, h⟩
    have read : readConnection scheme uri.dialect l.text = some uri :=
      h.sound.readConnection_eq_some_iff.mpr ⟨h.named, h.address, h.means⟩
    rw [parse, h.cut]
    simp only [h.dialect, read]

namespace Written

variable {text : String} {uri : TargetUri} {scheme : List Char} {l : Layout}

theorem toList (h : Written text uri scheme l) : text.toList = scheme ++ "://".toList ++ l.text :=
  Text.eq_append_of_splitAround h.cut

theorem lead (h : Written text uri scheme l) :
    uri.lead.toList = scheme ++ "://".toList ++ l.lead := by
  rw [h.means]
  exact String.toList_ofList

theorem authority (h : Written text uri scheme l) : uri.authority.toList = l.authority := by
  rw [h.means]
  exact String.toList_ofList

theorem tail (h : Written text uri scheme l) : uri.tail.toList = l.path ++ l.query := by
  rw [h.means]
  exact String.toList_ofList

/-- An accepted text is kept as it is. -/
theorem raw (h : Written text uri scheme l) : uri.raw = text := by
  rw [← String.toList_inj, TargetUri.raw, String.toList_append, String.toList_append, h.lead,
    h.authority, h.tail, h.toList, Layout.text, Layout.address]
  simp only [List.append_assoc]

end Written
end TargetUri

end Passage
