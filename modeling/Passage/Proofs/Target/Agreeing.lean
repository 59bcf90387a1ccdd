import Passage.Proofs.Target.Composing
import Passage.Proofs.Target.Hiding
import Passage.Proofs.Target.Resolving

namespace Passage

theorem Dialect.read_name (d : Dialect) : Dialect.read d.name = .ok d := by
  cases d <;> cbv

/-- Of credentials that are put together, hiding replaces the password. -/
theorem hideIn_passwordText {user : List Char} (colon : ':' ∉ user) (password : Option (List Char)) :
    hideIn (user ++ passwordText password) =
      user ++ passwordText (password.map fun _ => hiddenPassword.toList) := by
  cases password with
  | none =>
    have absent : ':' ∉ user ++ passwordText none := by simpa [passwordText] using colon
    rw [hideIn, Text.splitFirst_eq_none_iff.mpr absent]
    rfl
  | some secret => exact hideIn_append colon secret

namespace TargetUri

theorem sslMode_of_no_query {uri : TargetUri} (h : uri.query = "") : uri.sslMode = .ok none := by
  rw [sslMode, queryParam, h]
  rfl

namespace Parts

variable {p : Parts} {dialect : Dialect}

/-- The parts with something else in the place of the password, if there is one. -/
def hidden (p : Parts) : Parts :=
  { p with password := p.password.map fun _ => hiddenPassword }

/-- A text that is put together is shown as it would be with the hidden password. -/
theorem Fit.sanitize (h : p.Fit dialect) : Passage.sanitize p.text = p.hidden.text := by
  have cut := h.written.cut
  have found := h.splitCredentials
  rw [← String.toList_inj, Passage.sanitize, String.toList_ofList]
  cases hu : p.user with
  | none =>
    have none : p.layout.credentials = none := by simp [layout, credentials, hu]
    rw [none] at found
    rw [sanitizeChars_of_none cut found]
    simp [text, hidden, loginText, hu]
  | some user =>
    have some : p.layout.credentials =
        some (user.toList ++ passwordText (p.password.map String.toList)) := by
      simp [layout, credentials, hu]
    rw [some] at found
    have covered : p.hidden.layout.lead = user.toList ++
        passwordText ((p.password.map String.toList).map fun _ => hiddenPassword.toList) ++ ['@'] := by
      cases hw : p.password <;> simp [layout_lead, hidden, loginText, passwordText, hu, hw]
    rw [sanitizeChars_of_some cut found, hideIn_passwordText (h.user user hu).colon,
      toList_text, Layout.text, covered, ← List.append_cons]
    rfl

def fields (p : Parts) (dialect : Dialect) : TargetFields where
  dialect := some dialect
  host := some p.host
  port := p.port
  database := p.database
  user := p.user
  password := p.password

theorem Fit.uri_fields (h : p.Fit dialect) : (p.uri dialect).fields = p.fields dialect := by
  rw [TargetUri.fields, h.uri_user, h.uri_password, h.uri_database, uri_host]
  rfl

end Parts
end TargetUri

namespace Options

theorem chooseMode_of_unasked {o : Options} (uri : Option TargetUri)
    (h : ∀ known, uri = some known → known.sslMode = .ok none) :
    o.chooseMode uri = .ok (o.sslMode.getD SslMode.default) := by
  unfold chooseMode
  cases o.sslMode with
  | some mode => rfl
  | none =>
    cases uri with
    | none => rfl
    | some known =>
      dsimp only
      rw [h known rfl]
      rfl

/-- Written as a URI, a target comes to what it comes to field by field, with the URI beside it. -/
theorem resolve_uri {p : TargetUri.Parts} {dialect : Dialect} (fit : p.Fit dialect)
    (silent : p.query = none) (o : Options) :
    resolve { o with target := .uri p.text } =
      (resolve { o with target := .fields (p.fields dialect) }).map
        fun r => { r with uri := some (p.uri dialect) } := by
  have read : TargetUri.parse p.text = .ok (p.uri dialect) :=
    TargetUri.parse_eq_ok_iff.mpr ⟨_, _, fit.written⟩
  have unasked : ∀ known, some (p.uri dialect) = some known → known.sslMode = .ok none := by
    rintro known ⟨⟩
    apply TargetUri.sslMode_of_no_query
    rw [TargetUri.Parts.uri_query, silent]
    rfl
  have mode : chooseMode { o with target := .uri p.text } (some (p.uri dialect)) =
      chooseMode { o with target := .fields (p.fields dialect) } none :=
    (chooseMode_of_unasked _ unasked).trans (chooseMode_of_unasked none nofun).symm
  have sane (target : Target) : defect? { o with target } = o.defect? := rfl
  rw [resolve, readTarget_uri rfl, read, resolve, readTarget_fields rfl]
  simp only [Except.map, bind, Except.bind, fit.uri_fields, mode, sane]
  generalize chooseMode { o with target := .fields (p.fields dialect) } none = chosen
  -- The checks are made one after the other, and the URI is only carried along.
  dsimp only [TargetUri.Parts.fields]
  cases (some p.host).filter fun h => !Text.blank h with
  | none => rfl
  | some host =>
    dsimp only
    cases dialect.resolvePort p.port with
    | error => rfl
    | ok port =>
      cases chosen with
      | error => rfl
      | ok mode => cases o.defect? <;> rfl

/-- A target given by fields is resolved if it has a host to show and the rest of the request is in
order. -/
theorem exists_resolve_fields_iff (o : Options) {f : TargetFields} {dialect : Dialect} {host : String}
    {port : UInt16} (hd : f.dialect = some dialect) (hh : f.host = some host)
    (hp : f.port = some port) :
    (∃ r, resolve { o with target := .fields f } = .ok r) ↔
      Text.blank host = false ∧ o.defect? = none := by
  constructor
  · rintro ⟨r, ok⟩
    obtain ⟨fields, uri, h⟩ := resolve_eq_ok_iff.mp ok
    cases (readTarget_fields rfl).symm.trans h.target
    cases hh.symm.trans h.host
    exact ⟨h.shown, h.sane⟩
  · rintro ⟨shown, sane⟩
    let r : Resolved :=
      { dialect, host, port, serverName := host, database := f.database, user := f.user
        password := f.password, sslMode := o.sslMode.getD SslMode.default, proxy := o.proxy
        ssh := o.ssh, timeout := o.timeout, dialectOptions := o.dialectOptions, uri := none }
    refine ⟨r, resolve_eq_ok_iff.mpr
      ⟨f, none, readTarget_fields rfl, hd, hh, shown, ?port, ?mode, sane, rfl⟩⟩
    case port =>
      rw [hp]
      rfl
    case mode => exact chooseMode_of_unasked none nofun

/-- What is shown of a target given by fields is the URI that says the same, with the password hidden. -/
theorem sanitizedUri_of_fields {p : TargetUri.Parts} {dialect : Dialect}
    (scheme : p.scheme = dialect.name) (silent : p.query = none) {port : UInt16}
    (given : p.port = some port) {o : Options} {r : Resolved}
    (ok : resolve { o with target := .fields (p.fields dialect) } = .ok r) :
    r.sanitizedUri = p.hidden.text := by
  obtain ⟨fields, uri, h⟩ := resolve_eq_ok_iff.mp ok
  cases (readTarget_fields rfl).symm.trans h.target
  have dialect_eq : dialect = r.dialect := Option.some.inj h.dialect
  have host_eq : p.host = r.host := Option.some.inj h.host
  have port_eq : port = r.port := by
    have resolved := h.port
    rw [TargetUri.Parts.fields, given] at resolved
    exact Except.ok.inj resolved
  have user_eq : r.user = p.user := by rw [h.kept]; rfl
  have password_eq : r.password = p.password := by rw [h.kept]; rfl
  have database_eq : r.database = p.database := by rw [h.kept]; rfl
  have uri_eq : r.uri = none := by rw [h.kept]
  rw [Resolved.sanitizedUri, uri_eq, user_eq, password_eq, database_eq, ← dialect_eq, ← host_eq,
    ← port_eq, TargetUri.Parts.text]
  simp only [TargetUri.Parts.hidden, scheme, silent, given, Option.map_none, Option.getD_none,
    String.append_empty]
  cases p.user with
  | none => rfl
  | some user => cases p.password <;> rfl

/-- Two outcomes agree if they are the same failure, or if they differ at most in the URI that is
kept and neither the route nor what is shown of the target depends on that. -/
inductive Agree : Except Fault Resolved → Except Fault Resolved → Prop where
  | refused (fault : Fault) : Agree (.error fault) (.error fault)
  | resolved {r again : Resolved} (same : again = { r with uri := again.uri })
      (route : again.plan? = r.plan?) (shown : again.sanitizedUri = r.sanitizedUri) :
      Agree (.ok r) (.ok again)

theorem agree_of_fit {p : TargetUri.Parts} {dialect : Dialect} (fit : p.Fit dialect)
    (scheme : p.scheme = dialect.name) (silent : p.query = none) {port : UInt16}
    (given : p.port = some port) (o : Options) :
    Agree (resolve { o with target := .fields (p.fields dialect) })
      (resolve { o with target := .uri p.text }) := by
  rw [resolve_uri fit silent]
  cases ok : resolve { o with target := .fields (p.fields dialect) } with
  | error fault => exact .refused fault
  | ok r =>
    refine .resolved rfl rfl ?_
    rw [sanitizedUri_of_fields scheme silent given ok]
    change Passage.sanitize (p.uri dialect).raw = _
    rw [fit.written.raw, fit.sanitize]

/-- A target with a host and a port comes to the same whether it is given by fields or written as a URI:
it is refused for the same reason, or the same request is made of it, the same route leads there and the
same text is shown of it. The form decides nothing, so it is resolved whenever the host is not blank and
the rest of the request is in order. -/
theorem resolve_fields_uri (o : Options) (dialect : Dialect) {host : String}
    (name : HostName host.toList) {port : UInt16} (nonzero : port ≠ 0)
    {database user password : Option String}
    (hdatabase : ∀ d, database = some d → d ≠ "" ∧ '?' ∉ d.toList)
    (huser : ∀ u, user = some u → UserName u.toList)
    (hpassword : ∀ w, password = some w → user.isSome = true ∧ '/' ∉ w.toList) :
    let byFields := { o with target := .fields {
      dialect := some dialect, host := some host, port := some port, database, user, password } }
    let byUri := { o with target := .uri (dialect.name ++ "://" ++ TargetUri.loginText user password ++
      authorityText host (some port) ++ "/" ++ database.getD "") }
    Agree byFields.resolve byUri.resolve ∧
      ((∃ r, byFields.resolve = .ok r) ↔ Text.blank host = false ∧ o.defect? = none) := by
  intro byFields byUri
  let p : TargetUri.Parts :=
    { scheme := dialect.name, user, password, host, port := some port, database, query := none }
  have fit : p.Fit dialect :=
    { scheme := dialect.read_name, user := huser, password := hpassword, host := name
      port := fun zero => nonzero (Option.some.inj zero), database := hdatabase }
  have text : p.text = dialect.name ++ "://" ++ TargetUri.loginText user password ++
      authorityText host (some port) ++ "/" ++ database.getD "" := String.append_empty
  refine ⟨?_, exists_resolve_fields_iff o rfl rfl rfl⟩
  have agree := agree_of_fit fit rfl rfl rfl o
  rwa [text] at agree

/-- Marks of all kinds in the credentials and in the name of the database, an address in brackets, and
hops on the way. -/
theorem resolve_fields_uri_marked :
    let o : Options := {
      target := .uri "", sslMode := some .required
      proxy := some { host := "proxy.internal", port := 1080 }
      ssh := some { host := "jump.internal", username := "ops", privateKey := "key" } }
    let byFields := { o with target := .fields {
      dialect := some .mssql, host := some "::1", port := some 1433, database := some "m/@:#"
      user := some "s@a", password := some ":p@s?#" } }
    let byUri := { o with target := .uri "mssql://s@a::p@s?#@[::1]:1433/m/@:#" }
    Agree byFields.resolve byUri.resolve ∧ ∃ r, byFields.resolve = .ok r ∧
      r.sanitizedUri = "mssql://s@a:**sanitizedPassword**@[::1]:1433/m/@:#" := by
  intro o byFields byUri
  have name : HostName "::1".toList := by constructor <;> decide +kernel
  have database : ∀ d, some "m/@:#" = some d → d ≠ "" ∧ '?' ∉ d.toList := by
    rintro d ⟨⟩
    decide +kernel
  have user : ∀ u, some "s@a" = some u → UserName u.toList := by
    rintro u ⟨⟩
    constructor <;> decide +kernel
  have password : ∀ w, some ":p@s?#" = some w → (some "s@a").isSome = true ∧ '/' ∉ w.toList := by
    rintro w ⟨⟩
    decide +kernel
  have agree := resolve_fields_uri o .mssql name (by decide : (1433 : UInt16) ≠ 0) database user password
  have ok : byFields.resolve = .ok
      { dialect := .mssql, host := "::1", port := 1433, serverName := "::1"
        database := some "m/@:#", user := some "s@a", password := some ":p@s?#"
        sslMode := .required, proxy := o.proxy, ssh := o.ssh, timeout := none
        dialectOptions := none, uri := none } := rfl
  exact ⟨agree.1, _, ok, by decide +kernel⟩

end Options
end Passage
