import Passage.Negotiation.Request
import Passage.Proofs.Target.Refusal
import Passage.Proofs.Text.Quoting
import Passage.Scram.Client

namespace Passage

theorem Quoted.option_congr {α : Type} {shown : α → String} {alike : α → α → Prop}
    {a b : Option α} (h : Option.Rel alike a b) (same : ∀ {x y}, alike x y → shown x = shown y) :
    option shown a = option shown b := by
  cases h with
  | some both => exact congrArg (wrapped "Some") (same both)
  | none => rfl

theorem Quoted.option_hidden {a b : Option String} (both : a.isSome = b.isSome) (cover : String) :
    option (fun _ => cover) a = option (fun _ => cover) b := by
  cases a <;> cases b
  · rfl
  · cases both
  · cases both
  · rfl

structure Proxy.Alike (p q : Proxy) : Prop where
  others : q = { p with password := q.password }
  password : p.password.isSome = q.password.isSome

theorem Proxy.Alike.debug {p q : Proxy} (h : p.Alike q) : p.debug = q.debug := by
  have both := h.password
  have address : p.address = q.address := by
    rw [h.others, Proxy.address, Proxy.address]
    cases hp : p.password <;> cases hq : q.password <;> cases p.userId <;>
      simp_all [Proxy.endpoint]
  rw [Proxy.debug, Proxy.debug, address]

structure JumpHost.Alike (j k : JumpHost) : Prop where
  others : k = { j with privateKey := k.privateKey, passphrase := k.passphrase }
  passphrase : j.passphrase.isSome = k.passphrase.isSome

theorem JumpHost.Alike.debug {j k : JumpHost} (h : j.Alike k) : j.debug = k.debug := by
  rw [h.others]
  rfl

inductive HopSettings.Alike : HopSettings → HopSettings → Prop where
  | socks {p q : Proxy} (h : p.Alike q) : Alike (.socks p) (.socks q)
  | ssh {j k : JumpHost} (h : j.Alike k) : Alike (.ssh j) (.ssh k)

theorem HopSettings.Alike.debug {a b : HopSettings} (h : a.Alike b) : a.debug = b.debug := by
  cases h with
  | socks h => exact congrArg (Quoted.wrapped "Socks") h.debug
  | ssh h => exact congrArg (Quoted.wrapped "Ssh") h.debug

structure Plan.Alike (p q : Plan) : Prop where
  hops : List.Forall₂ HopSettings.Alike p.hops q.hops
  target : p.target = q.target

theorem HopSettings.map_debug {a b : List HopSettings} (h : List.Forall₂ Alike a b) :
    a.map debug = b.map debug := by
  induction h with
  | nil => rfl
  | cons first _ ih => rw [List.map_cons, List.map_cons, first.debug, ih]

theorem Plan.Alike.debug {p q : Plan} (h : p.Alike q) : p.debug = q.debug := by
  rw [Plan.debug, Plan.debug, Quoted.list, Quoted.list, HopSettings.map_debug h.hops, h.target]

structure TargetFields.Alike (f g : TargetFields) : Prop where
  others : g = { f with password := g.password }
  password : f.password.isSome = g.password.isSome

theorem TargetFields.Alike.debug {f g : TargetFields} (h : f.Alike g) : f.debug = g.debug := by
  rw [h.others, TargetFields.debug, TargetFields.debug, Quoted.option_hidden h.password]

namespace TargetUri

/-- A URI is read from a text, or is one that was moved. -/
inductive Made : TargetUri → Prop where
  | read {text : String} {uri : TargetUri} (h : parse text = .ok uri) : Made uri
  | moved {uri : TargetUri} (h : Made uri) (host : String) (port : UInt16) :
      Made (uri.moveTo host port)

/-- A URI with a user starts with the scheme and the credentials. -/
structure Headed (uri : TargetUri) (scheme : String) : Prop where
  colon : ':' ∉ scheme.toList
  lead : uri.lead = scheme ++ "://" ++ loginText uri.user uri.password
  user : ∀ user, uri.user = some user → UserName user.toList
  password : ∀ password, uri.password = some password → '/' ∉ password.toList

theorem Made.headed {uri : TargetUri} (h : uri.Made) : ∃ scheme, uri.Headed scheme := by
  induction h with
  | read accepted =>
    obtain ⟨scheme, l, written⟩ := parse_eq_ok_iff.mp accepted
    have made := written.madeUp
    exact ⟨String.ofList scheme, Dialect.colon_not_mem_of_read made.dialect, written.lead_eq,
      made.user, fun password known => (made.password password known).2⟩
  | moved h host port ih =>
    obtain ⟨scheme, headed⟩ := ih
    exact ⟨scheme, headed.colon, headed.lead, headed.user, headed.password⟩

/-- What is shown of a URI with a password is the text around it, less what seems to belong to it. -/
theorem PasswordAt.toList_sanitized {uri : TargetUri} (made : uri.Made)
    {before password after : String} (h : uri.PasswordAt before password after) :
    uri.sanitized.toList =
      before.toList ++ (hiddenPassword.toList ++ '@' :: behindLastAt (after.toList.drop 1)) := by
  obtain ⟨scheme, headed⟩ := made.headed
  obtain ⟨scheme', user, known, start⟩ := h.before_eq
  have lead : scheme' ++ "://" ++ user ++ ":" ++ password ++ "@" =
      scheme ++ "://" ++ (user ++ ":" ++ password ++ "@") := by
    rw [← start, ← h.lead_eq, headed.lead, known, h.password_eq]
    rfl
  obtain rfl : scheme' = scheme := by
    simpa [← String.toList_inj] using lead
  have text : uri.raw.toList = scheme'.toList ++ "://".toList ++ (user.toList ++
      ':' :: (password.toList ++ '@' :: (uri.authority.toList ++ uri.tail.toList))) := by
    rw [h.raw, start, h.after_eq]
    simp
  rw [TargetUri.sanitized, Passage.sanitize, String.toList_ofList, text,
    sanitizeChars_without_slash (not_infix_of_colon headed.colon) (headed.user user known)
      (headed.password password h.password_eq), start, h.after_eq]
  simp

/-- The URIs are the same, or have the same text around their passwords. -/
inductive Alike : TargetUri → TargetUri → Prop where
  | same (uri : TargetUri) : Alike uri uri
  | passwords {uri uri' : TargetUri} (made : uri.Made) (made' : uri'.Made)
      {before after password password' : String} (there : uri.PasswordAt before password after)
      (there' : uri'.PasswordAt before password' after) : Alike uri uri'

theorem Alike.sanitized {uri uri' : TargetUri} (h : uri.Alike uri') :
    uri.sanitized = uri'.sanitized := by
  cases h with
  | same => rfl
  | passwords made made' there there' =>
    rw [← String.toList_inj, there.toList_sanitized made, there'.toList_sanitized made']

theorem Alike.debug {uri uri' : TargetUri} (h : uri.Alike uri') : uri.debug = uri'.debug := by
  rw [TargetUri.debug, TargetUri.debug, h.sanitized]

end TargetUri

/-- The targets are the same, or are given by fields or by accepted URIs that are alike. -/
inductive Target.Alike : Target → Target → Prop where
  | same (target : Target) : Alike target target
  | fields {f g : TargetFields} (h : f.Alike g) : Alike (.fields f) (.fields g)
  | uri {text text' : String} {uri uri' : TargetUri} (read : TargetUri.parse text = .ok uri)
      (read' : TargetUri.parse text' = .ok uri') (h : uri.Alike uri') :
      Alike (.uri text) (.uri text')

theorem Target.Alike.debug {t u : Target} (h : t.Alike u) : t.debug = u.debug := by
  cases h with
  | same => rfl
  | fields h => exact congrArg (Quoted.wrapped "Fields") h.debug
  | uri read read' h =>
    obtain ⟨kept, -⟩ := TargetUri.parse_madeUp read
    obtain ⟨kept', -⟩ := TargetUri.parse_madeUp read'
    have shown := h.sanitized
    rw [TargetUri.sanitized, TargetUri.sanitized, kept, kept'] at shown
    rw [Target.debug, Target.debug, shown]

structure Options.Alike (o p : Options) : Prop where
  others : p = { o with target := p.target, proxy := p.proxy, ssh := p.ssh }
  target : o.target.Alike p.target
  proxy : Option.Rel Proxy.Alike o.proxy p.proxy
  ssh : Option.Rel JumpHost.Alike o.ssh p.ssh

theorem Options.Alike.debug {o p : Options} (h : o.Alike p) : o.debug = p.debug := by
  have proxy : Quoted.option Proxy.debug o.proxy = Quoted.option Proxy.debug p.proxy :=
    Quoted.option_congr h.proxy fun both => both.debug
  have ssh : Quoted.option JumpHost.debug o.ssh = Quoted.option JumpHost.debug p.ssh :=
    Quoted.option_congr h.ssh fun both => both.debug
  rw [h.others]
  unfold Options.debug
  dsimp only
  rw [h.target.debug, proxy, ssh]

structure DriverRequest.Alike (r q : DriverRequest) : Prop where
  others : q = { r with password := q.password }
  password : r.password.isSome = q.password.isSome

theorem DriverRequest.Alike.debug {r q : DriverRequest} (h : r.Alike q) : r.debug = q.debug := by
  have covered : r.password.map (fun _ => "***") = q.password.map fun _ => "***" := by
    have both := h.password
    cases hr : r.password <;> cases hq : q.password <;> simp_all
  rw [h.others, DriverRequest.debug, DriverRequest.debug, covered]

structure Scram.Client.Alike (c d : Scram.Client) : Prop where
  others : d = { c with password := d.password }

theorem Scram.Client.Alike.debug {c d : Scram.Client} (h : c.Alike d) : c.debug = d.debug := by
  rw [h.others]
  rfl

structure Resolved.Alike (r q : Resolved) : Prop where
  others : q = { r with password := q.password, proxy := q.proxy, ssh := q.ssh, uri := q.uri }
  password : r.password.isSome = q.password.isSome
  proxy : Option.Rel Proxy.Alike r.proxy q.proxy
  ssh : Option.Rel JumpHost.Alike r.ssh q.ssh
  uri : Option.Rel TargetUri.Alike r.uri q.uri

/-- A checked request is shown with its password. -/
theorem Resolved.Alike.debug_iff {r q : Resolved} (h : r.Alike q) :
    r.debug = q.debug ↔ r.password = q.password := by
  have proxy : Quoted.option Proxy.debug r.proxy = Quoted.option Proxy.debug q.proxy :=
    Quoted.option_congr h.proxy fun both => both.debug
  have ssh : Quoted.option JumpHost.debug r.ssh = Quoted.option JumpHost.debug q.ssh :=
    Quoted.option_congr h.ssh fun both => both.debug
  have uri : Quoted.option TargetUri.debug r.uri = Quoted.option TargetUri.debug q.uri :=
    Quoted.option_congr h.uri fun both => both.debug
  rw [← Quoted.option_text_iff h.password, h.others]
  unfold Resolved.debug
  dsimp only
  rw [proxy, ssh, uri]
  exact Quoted.record_replace_iff
    [("dialect", _), ("host", _), ("port", _), ("server_name", _), ("database", _), ("user", _)]
    [("ssl_mode", _), ("proxy", _), ("ssh", _), ("connect_timeout", _), ("dialect_options", _),
      ("uri", _)]

/-- A value that carries secrets and has diagnostic text. -/
inductive Carrier where
  | fields (f : TargetFields)
  | target (t : Target)
  | options (o : Options)
  | uri (u : TargetUri)
  | resolved (r : Resolved)
  | request (r : DriverRequest)
  | proxy (p : Proxy)
  | jumpHost (j : JumpHost)
  | plan (p : Plan)
  | client (c : Scram.Client)

namespace Carrier

def debug : Carrier → String
  | fields f => f.debug
  | target t => t.debug
  | options o => o.debug
  | uri u => u.debug
  | resolved r => r.debug
  | request r => r.debug
  | proxy p => p.debug
  | jumpHost j => j.debug
  | plan p => p.debug
  | client c => c.debug

/-- The values are of one kind and differ in nothing but the texts of their secrets. -/
inductive Alike : Carrier → Carrier → Prop where
  | fields {f g : TargetFields} (h : f.Alike g) : Alike (.fields f) (.fields g)
  | target {t u : Target} (h : t.Alike u) : Alike (.target t) (.target u)
  | options {o p : Options} (h : o.Alike p) : Alike (.options o) (.options p)
  | uri {a b : TargetUri} (h : a.Alike b) : Alike (.uri a) (.uri b)
  | resolved {r q : Resolved} (h : r.Alike q) : Alike (.resolved r) (.resolved q)
  | request {r q : DriverRequest} (h : r.Alike q) : Alike (.request r) (.request q)
  | proxy {p q : Proxy} (h : p.Alike q) : Alike (.proxy p) (.proxy q)
  | jumpHost {j k : JumpHost} (h : j.Alike k) : Alike (.jumpHost j) (.jumpHost k)
  | plan {p q : Plan} (h : p.Alike q) : Alike (.plan p) (.plan q)
  | client {c d : Scram.Client} (h : c.Alike d) : Alike (.client c) (.client d)

/-- The password that is seen in the diagnostic text: a checked request shows its own. -/
def seenPassword : Carrier → Option String
  | resolved r => r.password
  | _ => none

end Carrier

/-- Values that differ in nothing but their secrets have the same diagnostic text if and only if the same
password is seen in it, and none is seen but that of a checked request. -/
theorem alike_debug_iff {a b : Carrier} (h : a.Alike b) :
    a.debug = b.debug ↔ a.seenPassword = b.seenPassword := by
  cases h with
  | resolved h => exact h.debug_iff
  | fields h => exact iff_of_true h.debug rfl
  | target h => exact iff_of_true h.debug rfl
  | options h => exact iff_of_true h.debug rfl
  | uri h => exact iff_of_true h.debug rfl
  | request h => exact iff_of_true h.debug rfl
  | proxy h => exact iff_of_true h.debug rfl
  | jumpHost h => exact iff_of_true h.debug rfl
  | plan h => exact iff_of_true h.debug rfl
  | client h => exact iff_of_true h.debug rfl

/-- All of the secrets of a request differ, the database's password inside a URI. -/
theorem alike_debug_options :
    let requested (text secret key : String) : Options := {
      target := .uri text
      proxy := some { host := "proxy", port := 1080, userId := some "me", password := some secret }
      ssh := some { host := "jump", username := "me", privateKey := key, passphrase := some secret } }
    let o := requested "postgres://app:s3cret@db/app" "s3cret" "KEY"
    let p := requested "postgres://app:hunter@2@db/app" "hunter@2" "OTHER KEY"
    o.Alike p ∧ o.debug = p.debug := by
  intro requested o p
  let uri (password : String) : TargetUri := {
    dialect := .postgres, lead := "postgres://app:" ++ password ++ "@", authority := "db"
    tail := "/app", host := "db", port := none, user := some "app", password := some password
    database := some "app", query := "" }
  have there (password : String) : (uri password).PasswordAt "postgres://app:" password "@db/app" :=
    ⟨rfl, ⟨"postgres", "app", rfl, rfl⟩, rfl, rfl⟩
  have read : TargetUri.parse "postgres://app:s3cret@db/app" = .ok (uri "s3cret") := by cbv
  have read' : TargetUri.parse "postgres://app:hunter@2@db/app" = .ok (uri "hunter@2") := by cbv
  have target : o.target.Alike p.target :=
    .uri read read' (.passwords (.read read) (.read read') (there "s3cret") (there "hunter@2"))
  have alike : o.Alike p := ⟨rfl, target, .some ⟨rfl, rfl⟩, .some ⟨rfl, rfl⟩⟩
  exact ⟨alike, (alike_debug_iff (.options alike)).mpr rfl⟩

/-- Two requests that differ in the password are told apart once they are checked. -/
theorem Resolved.password_shown :
    let requested (password : String) : Options := { target := .fields {
      dialect := some .postgres, host := some "db", database := some "app", user := some "app"
      password := some password } }
    (requested "secret").Alike (requested "hunter2") ∧
      ∃ r q, (requested "secret").resolve = .ok r ∧ (requested "hunter2").resolve = .ok q ∧
        r.Alike q ∧ r.debug ≠ q.debug := by
  intro requested
  let checked (password : String) : Resolved := {
    dialect := .postgres, host := "db", port := 5432, serverName := "db", database := some "app"
    user := some "app", password := some password, sslMode := SslMode.default, proxy := none
    ssh := none, timeout := none, dialectOptions := none, uri := none }
  have alike : (checked "secret").Alike (checked "hunter2") :=
    ⟨rfl, rfl, .none, .none, .none⟩
  refine ⟨⟨rfl, .fields ⟨rfl, rfl⟩, .none, .none⟩, checked "secret", checked "hunter2", rfl, rfl,
    alike, fun same => ?_⟩
  have password : some "secret" = some "hunter2" := alike.debug_iff.mp same
  exact absurd password (by decide)

end Passage
