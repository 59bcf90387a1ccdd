import Passage.Proofs.Target.Moving

namespace Passage

theorem Dialect.colon_not_mem_of_read {scheme : String} {dialect : Dialect}
    (h : Dialect.read scheme = .ok dialect) : ':' ∉ scheme.toList := by
  intro held
  have lower : ':' ∈ scheme.toLower.toList := by
    rw [String.toLower, String.toList_map]
    exact List.mem_map.mpr ⟨':', held, by decide⟩
  revert h lower
  unfold Dialect.read
  generalize scheme.toLower = name
  unfold Dialect.ofLowerName?
  intro h lower
  split at h
  · rename_i known
    split at known
    all_goals first | exact absurd lower (by decide +kernel) | cases known
  · cases h

/-- A name that can be written in front of a password. -/
structure UserName (user : List Char) : Prop where
  nonempty : user ≠ []
  colon : ':' ∉ user
  slash : '/' ∉ user
  question : '?' ∉ user
  hash : '#' ∉ user

/-- A password as it is written behind a user. -/
def passwordText (password : Option (List Char)) : List Char :=
  (password.map (':' :: ·)).getD []

theorem opens_passwordText (password : Option (List Char)) : Opens ':' (passwordText password) := by
  cases password with
  | none => exact .inl rfl
  | some secret => exact .inr ⟨secret, rfl⟩

theorem slash_not_mem_passwordText_iff {password : Option (List Char)} :
    '/' ∉ passwordText password ↔ ∀ secret, password = some secret → '/' ∉ secret := by
  cases password <;> simp [passwordText]

/-- Credentials are read as they are written. -/
theorem TargetUri.readCredentials_eq_iff {credentials user : List Char}
    {password : Option (List Char)} :
    readCredentials credentials = (user, password) ↔
      ':' ∉ user ∧ credentials = user ++ passwordText password := by
  unfold readCredentials
  constructor
  · intro h
    split at h
    · rename_i before after cut
      cases h
      obtain ⟨whole, free⟩ := Text.eq_append_of_splitFirst cut
      exact ⟨free, whole⟩
    · rename_i absent
      cases h
      exact ⟨Text.splitFirst_eq_none_iff.mp absent, (List.append_nil credentials).symm⟩
  · rintro ⟨free, rfl⟩
    cases password with
    | none =>
      have absent : ':' ∉ user ++ passwordText none := by simpa [passwordText] using free
      rw [Text.splitFirst_eq_none_iff.mpr absent]
      simp [passwordText]
    | some secret =>
      have cut : Text.splitFirst ':' (user ++ passwordText (some secret)) = some (user, secret) :=
        Text.splitFirst_append free
      rw [cut]

/-- Only the user decides whether an `@` ends credentials. -/
theorem inQuery_append_passwordText {user : List Char} (colon : ':' ∉ user)
    (password : Option (List Char)) :
    InQuery (user ++ passwordText password) ↔ '?' ∈ user ∨ '#' ∈ user := by
  rw [InQuery, takeWhile_ne_append colon, (opens_passwordText password).takeWhile_ne,
    List.append_nil]

namespace TargetUri

/-- What is written behind a host: nothing, or a colon and a port. -/
inductive PortPart : List Char → Option UInt16 → Prop where
  | absent : PortPart [] none
  | given {numeral : List Char} {port : UInt16} (value : Text.Numeral numeral port.toNat)
      (nonzero : port ≠ 0) : PortPart (':' :: numeral) (some port)

/-- What an address says. In brackets a host ends at the first that closes; without any, it ends in front
of the last colon. -/
inductive Address : List Char → List Char → Option UInt16 → Prop where
  | bracketed {host rest : List Char} {port : Option UInt16} (nonempty : host ≠ [])
      (closing : ']' ∉ host) (behind : PortPart rest port) :
      Address ('[' :: host ++ ']' :: rest) host port
  | plain {host rest : List Char} {port : Option UInt16} (nonempty : host ≠ [])
      (opening : host.head? ≠ some '[') (colon : rest = [] → ':' ∉ host)
      (behind : PortPart rest port) : Address (host ++ rest) host port

theorem portPart_of_authorityPort? {numeral : List Char} {port : UInt16}
    (h : authorityPort? numeral = some port) : PortPart (':' :: numeral) (some port) := by
  obtain ⟨read, nonzero⟩ := Option.filter_eq_some_iff.mp h
  obtain ⟨n, value, rfl⟩ := Option.map_eq_some_iff.mp read
  obtain ⟨written, bound⟩ := Text.numeral_of_numeral? value
  have fits : (UInt16.ofNat n).toNat = n := UInt16.toNat_ofNat_of_lt' (Nat.lt_succ_of_le bound)
  exact .given (by rwa [fits]) (by simpa using nonzero)

theorem address_of_readAuthority {text host : List Char} {port : Option UInt16}
    (h : readAuthority text = some (host, port)) : Address text host port := by
  unfold readAuthority at h
  split at h
  · rename_i inner
    split at h
    · cases h
    · cases h
    · rename_i known nonempty cut
      cases h
      obtain ⟨rfl, free⟩ := Text.eq_append_of_splitFirst cut
      exact .bracketed nonempty free .absent
    · rename_i known numeral nonempty cut
      obtain ⟨p, read, he⟩ := Option.map_eq_some_iff.mp h
      cases he
      obtain ⟨rfl, free⟩ := Text.eq_append_of_splitFirst cut
      exact .bracketed nonempty free (portPart_of_authorityPort? read)
    · cases h
  · rename_i unbracketed
    have opening {before rest : List Char} (whole : text = before ++ rest) :
        before.head? ≠ some '[' := by
      intro first
      obtain ⟨tail, rfl⟩ := List.head?_eq_some_iff.mp first
      exact unbracketed (tail ++ rest) whole
    split at h
    · rename_i absent
      have free := Text.splitLast_eq_none_iff.mp absent
      split at h
      · cases h
      · rename_i nonempty
        cases h
        have said : Address (text ++ []) text none :=
          .plain (by simpa using nonempty) (opening (List.append_nil text).symm) (fun _ => free)
            .absent
        rwa [List.append_nil] at said
    · cases h
    · rename_i known numeral nonempty cut
      obtain ⟨p, read, he⟩ := Option.map_eq_some_iff.mp h
      cases he
      obtain ⟨whole, -⟩ := Text.eq_append_of_splitLast cut
      rw [whole]
      refine .plain nonempty (opening whole) ?_ (portPart_of_authorityPort? read)
      intro none
      cases none

/-- An address is read back from its written form, with a port or without. -/
theorem readAuthority_authorityText {host : String} (name : HostName host.toList)
    {port : Option UInt16} (nonzero : port ≠ some 0) :
    readAuthority (authorityText host port).toList = some (host.toList, port) := by
  cases port with
  | some p => exact name.readAuthority fun hp => nonzero (congrArg some hp)
  | none =>
    have noClosing : ']' ∉ host.toList := name.closing
    have noOpening : '[' ∉ host.toList := name.opening
    have nonempty := name.nonempty
    rw [authorityText, bracketed]
    split
    · rw [String.toList_append, String.toList_append]
      revert noClosing nonempty
      generalize host.toList = letters
      intro noClosing nonempty
      have cut : Text.splitFirst ']' (letters ++ [']']) = some (letters, []) :=
        Text.splitFirst_append noClosing
      cases letters with
      | nil => exact absurd rfl nonempty
      | cons c cs =>
        change readAuthority ('[' :: (c :: cs ++ [']'])) = _
        simp only [readAuthority, cut]
    · rename_i noColon
      revert noColon noOpening nonempty
      generalize host.toList = letters
      intro noOpening nonempty noColon
      cases letters with
      | nil => exact absurd rfl nonempty
      | cons c cs =>
        have plain : c ≠ '[' := fun he => noOpening (he ▸ List.mem_cons_self)
        unfold readAuthority
        split
        · rename_i he
          cases he
          exact absurd rfl plain
        · rw [Text.splitLast_eq_none_iff.mpr noColon]
          rfl

theorem not_mem_authorityText_of_host {host : String} {c : Char} (free : c ∉ host.toList)
    (form : c ∉ ['[', ']', ':']) (digit : c.isDigit = false) (port : Option UInt16) :
    c ∉ (authorityText host port).toList := by
  cases port with
  | some p => exact not_mem_authorityText free form digit p
  | none =>
    rw [authorityText, bracketed]
    split <;> simp_all

/-- The bytes of an authority begin and end between two characters, and make up the authority. -/
theorem exists_span (uri : TargetUri) : ∃ start stop : uri.raw.Pos,
    (start.offset.byteIdx, stop.offset.byteIdx) = uri.span ∧
      String.extract start stop = uri.authority := by
  have front : uri.raw = uri.lead ++ (uri.authority ++ uri.tail) := String.append_assoc
  have back : uri.raw = uri.lead ++ uri.authority ++ uri.tail := rfl
  let start : uri.raw.Pos := ⟨uri.lead.rawEndPos,
    String.Pos.Raw.isValid_iff_exists_append.mpr ⟨_, _, front, rfl⟩⟩
  let stop : uri.raw.Pos := ⟨(uri.lead ++ uri.authority).rawEndPos,
    String.Pos.Raw.isValid_iff_exists_append.mpr ⟨_, _, back, rfl⟩⟩
  have first : start.Splits uri.lead (uri.authority ++ uri.tail) := ⟨front, rfl⟩
  have last : stop.Splits (uri.lead ++ uri.authority) uri.tail := ⟨back, rfl⟩
  obtain ⟨order, cut⟩ := String.copy_slice_eq_iff_splits.mpr ⟨_, _, first, last⟩
  refine ⟨start, stop, ?_, (String.extract_eq_copy_slice start stop order).trans cut⟩
  simp [start, stop, span]

/-- Credentials as they are written, with the mark that ends them. -/
def loginText : Option String → Option String → String
  | none, _ => ""
  | some user, none => user ++ "@"
  | some user, some password => user ++ ":" ++ password ++ "@"

/-- What a URI is put together from. -/
structure Parts where
  scheme : String
  user : Option String
  password : Option String
  host : String
  port : Option UInt16
  database : Option String
  query : Option String

namespace Parts

def text (p : Parts) : String :=
  p.scheme ++ "://" ++ loginText p.user p.password ++ authorityText p.host p.port ++ "/" ++
    p.database.getD "" ++ (p.query.map ("?" ++ ·)).getD ""

/-- Each part can stand where it is written, and a password has a user in front of it. -/
structure Fit (p : Parts) (dialect : Dialect) : Prop where
  scheme : Dialect.read p.scheme = .ok dialect
  user : ∀ user, p.user = some user → UserName user.toList
  password : ∀ password, p.password = some password →
    p.user.isSome = true ∧ '/' ∉ password.toList
  host : HostName p.host.toList
  port : p.port ≠ some 0
  database : ∀ database, p.database = some database → database ≠ "" ∧ '?' ∉ database.toList

def credentials (p : Parts) : Option (List Char) :=
  p.user.map fun user => user.toList ++ passwordText (p.password.map String.toList)

def layout (p : Parts) : Layout where
  credentials := p.credentials
  authority := (authorityText p.host p.port).toList
  path := '/' :: (p.database.getD "").toList
  query := (p.query.map fun q => '?' :: q.toList).getD []

variable {p : Parts} {dialect : Dialect}

theorem layout_lead (p : Parts) : p.layout.lead = (loginText p.user p.password).toList := by
  cases hu : p.user with
  | none => simp [Layout.lead, layout, credentials, hu, loginText]
  | some user =>
    cases hw : p.password <;>
      simp [Layout.lead, layout, credentials, hu, hw, loginText, passwordText]

theorem toList_text (p : Parts) :
    p.text.toList = p.scheme.toList ++ "://".toList ++ p.layout.text := by
  rw [Layout.text, p.layout_lead]
  cases hq : p.query <;> simp [text, Layout.address, layout, hq]

theorem Fit.splitCredentials (h : p.Fit dialect) :
    Passage.splitCredentials p.layout.text = p.layout.credentials.map (·, p.layout.address) := by
  have ampersat : '@' ∉ p.layout.authority :=
    not_mem_authorityText_of_host h.host.ampersat (by decide) (by decide) p.port
  have slash : '/' ∉ p.layout.authority :=
    not_mem_authorityText_of_host h.host.slash (by decide) (by decide) p.port
  -- The path begins with the first slash of the address, and no `@` stands in front of it.
  have last : '@' ∉ p.layout.address.takeWhile (· ≠ '/') := by
    rw [Layout.address, List.append_assoc, takeWhile_ne_append slash]
    simpa [layout] using ampersat
  cases hu : p.user with
  | none =>
    have none : p.layout.credentials = none := by simp [layout, credentials, hu]
    rw [Layout.text, Layout.lead, none]
    exact splitCredentials_of_not_mem last
  | some user =>
    have name := h.user user hu
    have noPath : '/' ∉ user.toList ++ passwordText (p.password.map String.toList) := by
      rw [List.mem_append, not_or, slash_not_mem_passwordText_iff]
      refine ⟨name.slash, ?_⟩
      intro secret hs
      obtain ⟨password, hw, rfl⟩ := Option.map_eq_some_iff.mp hs
      exact (h.password password hw).2
    have named : ¬ InQuery (user.toList ++ passwordText (p.password.map String.toList)) := by
      rw [inQuery_append_passwordText name.colon, not_or]
      exact ⟨name.question, name.hash⟩
    have some : p.layout.credentials =
        some (user.toList ++ passwordText (p.password.map String.toList)) := by
      simp [layout, credentials, hu]
    rw [Layout.text, Layout.lead, some]
    exact splitCredentials_eq_some_iff.mpr
      ⟨(List.append_cons _ _ _).symm, noPath, last, named⟩

theorem Fit.sound (h : p.Fit dialect) : p.layout.Sound where
  credentials := h.splitCredentials
  authority_path := not_mem_authorityText_of_host h.host.slash (by decide) (by decide) p.port
  authority_query := not_mem_authorityText_of_host h.host.question (by decide) (by decide) p.port
  path := .inr ⟨_, rfl⟩
  path_query := by
    cases hd : p.database with
    | none => simp [layout, hd]
    | some database => simpa [layout, hd] using (h.database database hd).2
  query := by
    cases hq : p.query with
    | none => exact .inl (by simp [layout, hq])
    | some q => exact .inr ⟨q.toList, by simp [layout, hq]⟩

theorem Fit.login (h : p.Fit dialect) :
    p.layout.login = p.user.map fun user => (user.toList, p.password.map String.toList) := by
  cases hu : p.user with
  | none => simp [Layout.login, layout, credentials, hu]
  | some user =>
    have read := readCredentials_eq_iff.mpr
      ⟨(h.user user hu).colon, (rfl : _ = user.toList ++ passwordText (p.password.map String.toList))⟩
    simp [Layout.login, layout, credentials, hu, read]

/-- What the parts say, once they are put together. -/
def uri (p : Parts) (dialect : Dialect) : TargetUri :=
  p.layout.uri p.scheme.toList dialect p.host.toList p.port

@[simp]
theorem uri_host (p : Parts) (dialect : Dialect) : (p.uri dialect).host = p.host :=
  String.ofList_toList

@[simp]
theorem uri_query (p : Parts) (dialect : Dialect) : (p.uri dialect).query = p.query.getD "" := by
  cases hq : p.query <;> simp [uri, Layout.uri, layout, hq]

theorem Fit.uri_user (h : p.Fit dialect) : (p.uri dialect).user = p.user := by
  rw [uri, Layout.uri, h.login]
  cases p.user <;> simp

theorem Fit.uri_password (h : p.Fit dialect) : (p.uri dialect).password = p.password := by
  rw [uri, Layout.uri, h.login]
  cases hw : p.password with
  | none => cases p.user <;> rfl
  | some password =>
    obtain ⟨user, hu⟩ := Option.isSome_iff_exists.mp (h.password password hw).1
    simp [hu]

theorem Fit.uri_database (h : p.Fit dialect) : (p.uri dialect).database = p.database := by
  rw [uri, Layout.uri]
  cases hd : p.database with
  | none => simp [layout, hd]
  | some database =>
    have nonempty := (h.database database hd).1
    simp [layout, hd, nonempty]

theorem Fit.written (h : p.Fit dialect) :
    Written p.text (p.uri dialect) p.scheme.toList p.layout where
  cut := by
    rw [p.toList_text]
    exact Text.splitAround_append (Dialect.colon_not_mem_of_read h.scheme) _ _
  dialect := by
    rw [String.ofList_toList]
    exact h.scheme
  sound := h.sound
  named := by
    rw [h.login]
    cases hu : p.user with
    | none => simp
    | some user => simpa using (h.user user hu).nonempty
  address := by
    rw [uri_host]
    exact readAuthority_authorityText h.host h.port
  means := by
    rw [uri_host]
    rfl

end Parts

/-- A text that is put together from parts is accepted, and these parts are what is read from it. -/
theorem parse_text {p : Parts} {dialect : Dialect} (fit : p.Fit dialect) :
    ∃ uri, parse p.text = .ok uri ∧ uri.dialect = dialect ∧ uri.user = p.user ∧
      uri.password = p.password ∧ uri.host = p.host ∧ uri.port = p.port ∧
      uri.database = p.database ∧ uri.query = p.query.getD "" := by
  have read : parse p.text = .ok (p.uri dialect) :=
    parse_eq_ok_iff.mpr ⟨p.scheme.toList, p.layout, fit.written⟩
  exact ⟨_, read, rfl, fit.uri_user, fit.uri_password, p.uri_host dialect, rfl, fit.uri_database,
    p.uri_query dialect⟩

/-- Parts that hold the marks that divide the others. -/
def Parts.marked : Parts where
  scheme := "SQLServer"
  user := some "s@a"
  password := some ":p@s?#"
  host := "::1"
  port := some 1433
  database := some "m/@:#"
  query := some "a=b:c@d/?"

theorem parse_text_marked :
    Parts.marked.Fit .mssql ∧
      ∃ uri, parse "SQLServer://s@a::p@s?#@[::1]:1433/m/@:#?a=b:c@d/?" = .ok uri ∧
        uri.dialect = .mssql ∧ uri.user = some "s@a" ∧ uri.password = some ":p@s?#" ∧
        uri.host = "::1" ∧ uri.port = some 1433 ∧ uri.database = some "m/@:#" ∧
        uri.query = "a=b:c@d/?" := by
  have fit : Parts.marked.Fit .mssql := by
    refine ⟨by cbv, ?_, ?_, by constructor <;> decide +kernel, by decide, ?_⟩
    · rintro user ⟨⟩
      constructor <;> decide +kernel
    · rintro password ⟨⟩
      exact ⟨rfl, by decide +kernel⟩
    · rintro database ⟨⟩
      exact ⟨by decide, by decide +kernel⟩
  have text : Parts.marked.text = "SQLServer://s@a::p@s?#@[::1]:1433/m/@:#?a=b:c@d/?" := by cbv
  have read := parse_text fit
  rw [text] at read
  exact ⟨fit, read⟩

/-- The text of a URI is made up of these parts and of what is read from it. -/
structure MadeUp (uri : TargetUri) (scheme path query : String) : Prop where
  raw : uri.raw =
    scheme ++ "://" ++ loginText uri.user uri.password ++ uri.authority ++ path ++ query
  dialect : Dialect.read scheme = .ok uri.dialect
  user : ∀ user, uri.user = some user → UserName user.toList
  password : ∀ password, uri.password = some password →
    uri.user.isSome = true ∧ '/' ∉ password.toList
  start : uri.span.1 =
    scheme.utf8ByteSize + "://".utf8ByteSize + (loginText uri.user uri.password).utf8ByteSize
  authority : ∃ start stop : uri.raw.Pos,
    (start.offset.byteIdx, stop.offset.byteIdx) = uri.span ∧
      String.extract start stop = uri.authority
  address : Address uri.authority.toList uri.host.toList uri.port
  path : path = "" ∧ uri.database = none ∨
    ∃ database, path = "/" ++ database ∧
      uri.database = if database = "" then none else some database
  query : query = "" ∧ uri.query = "" ∨ query = "?" ++ uri.query

section

variable {text : String} {uri : TargetUri} {scheme : List Char} {l : Layout}

/-- What the credentials of an accepted text say. -/
theorem Written.login_cases (h : Written text uri scheme l) :
    (uri.user = none ∧ uri.password = none ∧ l.lead = []) ∨
      ∃ user password, UserName user ∧ '/' ∉ passwordText password ∧
        uri.user = some (String.ofList user) ∧ uri.password = password.map String.ofList ∧
        l.lead = user ++ passwordText password ++ ['@'] := by
  have marked := h.sound.credentials
  have named := h.named
  have user : uri.user = l.login.map fun login => String.ofList login.1 := by rw [h.means]; rfl
  have password : uri.password =
      l.login.bind fun login => login.2.map String.ofList := by rw [h.means]; rfl
  rw [user, password, Layout.lead]
  cases hc : l.credentials with
  | none => exact .inl ⟨by simp [Layout.login, hc], by simp [Layout.login, hc], rfl⟩
  | some credentials =>
    cases read : readCredentials credentials with
    | mk name secret =>
      obtain ⟨colon, rfl⟩ := readCredentials_eq_iff.mp read
      rw [hc, Option.map_some] at marked
      obtain ⟨-, noPath, -, inName⟩ := splitCredentials_eq_some_iff.mp marked
      rw [inQuery_append_passwordText colon, not_or] at inName
      rw [List.mem_append, not_or] at noPath
      have login : l.login = some (name, secret) := by rw [Layout.login, hc, Option.map_some, read]
      have nonempty : name ≠ [] := fun he => named (by rw [login, Option.map_some, he])
      refine .inr ⟨name, secret, ⟨nonempty, colon, noPath.1, inName.1, inName.2⟩, noPath.2, ?_⟩
      rw [login]
      exact ⟨rfl, rfl, rfl⟩

theorem Written.lead_eq (h : Written text uri scheme l) :
    uri.lead = String.ofList scheme ++ "://" ++ loginText uri.user uri.password := by
  rw [← String.toList_inj, h.lead]
  rcases h.login_cases with ⟨user, -, lead⟩ | ⟨name, secret, -, -, user, password, lead⟩
  · rw [user, lead]
    simp [loginText]
  · rw [user, password, lead]
    cases secret <;> simp [loginText, passwordText]

theorem Written.tail_eq (h : Written text uri scheme l) :
    uri.tail = String.ofList l.path ++ String.ofList l.query := by
  rw [← String.toList_inj, h.tail]
  simp

theorem Written.madeUp (h : Written text uri scheme l) :
    MadeUp uri (String.ofList scheme) (String.ofList l.path) (String.ofList l.query) where
  raw := by
    rw [TargetUri.raw, h.lead_eq, h.tail_eq]
    simp only [String.append_assoc]
  dialect := h.dialect
  user := by
    intro user known
    rcases h.login_cases with ⟨none, -, -⟩ | ⟨name, secret, plain, -, some, -, -⟩
    · rw [none] at known
      cases known
    · rw [some] at known
      cases known
      rwa [String.toList_ofList]
  password := by
    intro password known
    rcases h.login_cases with ⟨-, none, -⟩ | ⟨name, secret, -, slash, user, some, -⟩
    · rw [none] at known
      cases known
    · rw [some] at known
      obtain ⟨letters, hs, rfl⟩ := Option.map_eq_some_iff.mp known
      rw [user, String.toList_ofList]
      exact ⟨rfl, slash_not_mem_passwordText_iff.mp slash letters hs⟩
  start := by
    change uri.lead.utf8ByteSize = _
    rw [h.lead_eq, String.utf8ByteSize_append, String.utf8ByteSize_append]
  authority := uri.exists_span
  address := by
    rw [h.authority]
    exact address_of_readAuthority h.address
  path := by
    rcases h.sound.path with none | ⟨database, opened⟩
    · refine .inl ⟨by rw [none], ?_⟩
      rw [h.means]
      simp [Layout.uri, none]
    · refine .inr ⟨String.ofList database, ?_, ?_⟩
      · rw [opened, ← String.toList_inj]
        simp
      · rw [h.means]
        cases database <;> simp [Layout.uri, opened]
  query := by
    rcases h.sound.query with none | ⟨asked, opened⟩
    · refine .inl ⟨by rw [none], ?_⟩
      rw [h.means]
      simp [Layout.uri, none]
    · refine .inr ?_
      rw [h.means, ← String.toList_inj]
      simp [Layout.uri, opened]

end

/-- Nothing of an accepted text is lost, said twice or moved: it is the scheme, the credentials, the
address, the path and the query that are read from it, one behind the other, and the bytes kept for the
address are those of the address. -/
theorem parse_madeUp {text : String} {uri : TargetUri} (read : parse text = .ok uri) :
    uri.raw = text ∧ ∃ scheme path query, MadeUp uri scheme path query := by
  obtain ⟨scheme, l, written⟩ := parse_eq_ok_iff.mp read
  exact ⟨written.raw, _, _, _, written.madeUp⟩

/-- Letters of more than one byte in all parts, brackets, a signed port and no path. -/
theorem parse_madeUp_lettered :
    ∃ uri, parse "MariaDB://ü@s:ß?#@[fé::1]:+03306?ä=b" = .ok uri ∧ uri.span = (20, 35) ∧
      uri.raw = "MariaDB://ü@s:ß?#@[fé::1]:+03306?ä=b" ∧
      ∃ scheme path query, MadeUp uri scheme path query := by
  have read : parse "MariaDB://ü@s:ß?#@[fé::1]:+03306?ä=b" = .ok
      { lead := "MariaDB://ü@s:ß?#@", authority := "[fé::1]:+03306", tail := "?ä=b",
        dialect := .mariadb, user := some "ü@s", password := some "ß?#", host := "fé::1",
        port := some 3306, database := none, query := "ä=b" } := by cbv
  exact ⟨_, read, by decide +kernel, parse_madeUp read⟩

end TargetUri
end Passage
