import Passage.Proofs.Target.Moving
import Passage.Target.Options

namespace Passage

/-- In a URI, nothing but a path may follow the address. -/
def Target.PathNext : Target → Prop
  | .uri text => ∀ uri, TargetUri.parse text = .ok uri → Opens '/' uri.tail.toList
  | .fields _ => True

/-- In front of a path, or at the end of a text, an address can always be replaced. -/
theorem TargetUri.parse_moveTo_of_path {text : String} {uri : TargetUri}
    (read : parse text = .ok uri) (path : Opens '/' uri.tail.toList) {host : String}
    (name : HostName host.toList) {port : UInt16} (nonzero : port ≠ 0) :
    parse (uri.moveTo host port).raw = .ok (uri.moveTo host port) := by
  obtain ⟨scheme, l, h⟩ := parse_eq_ok_iff.mp read
  have absent {mark : Char} (free : mark ∉ host.toList) (form : mark ∉ ['[', ']', ':'])
      (digit : mark.isDigit = false) := not_mem_authorityText free form digit port
  have slash := absent name.slash (by decide) (by decide)
  have question := absent name.question (by decide) (by decide)
  have ampersat := absent name.ampersat (by decide) (by decide)
  have sound : (l.moveTo (authorityText host (some port)).toList).Sound := by
    apply (h.sound.moveTo_iff slash question ampersat (colon_mem_authorityText host port)).mpr
    rw [← h.tail, path.takeWhile_ne]
    exact .inr (.inl List.not_mem_nil)
  exact parse_eq_ok_iff.mpr ⟨scheme, _, h.moveTo name nonzero sound⟩

namespace Options

theorem readTarget_uri {o : Options} {text : String} (h : o.target = .uri text) :
    o.readTarget = (TargetUri.parse text).map fun uri => (uri.fields, some uri) := by
  rw [readTarget, h]

theorem readTarget_fields {o : Options} {f : TargetFields} (h : o.target = .fields f) :
    o.readTarget = .ok (f, none) := by
  rw [readTarget, h]

/-- Moving a request moves its target and nothing else. -/
theorem moveTo_target {o : Options} {fields : TargetFields} {uri : Option TargetUri}
    (read : o.readTarget = .ok (fields, uri)) (path : o.target.PathNext) {host : String}
    (name : HostName host.toList) {port : UInt16} (nonzero : port ≠ 0) :
    ∃ target, o.moveTo host port = .ok { o with target } ∧
      readTarget { o with target } =
        .ok ({ fields with host := some host, port := some port },
          uri.map fun uri => uri.moveTo host port) := by
  cases ht : o.target with
  | fields f =>
    rw [readTarget_fields ht] at read
    cases read
    exact ⟨_, by rw [moveTo, ht], rfl⟩
  | uri text =>
    rw [readTarget_uri ht] at read
    rw [ht] at path
    cases hp : TargetUri.parse text with
    | error fault =>
      rw [hp] at read
      cases read
    | ok known =>
      rw [hp] at read
      cases read
      refine ⟨.uri (known.moveTo host port).raw, by simp only [moveTo, ht, hp], ?_⟩
      rw [readTarget_uri rfl, TargetUri.parse_moveTo_of_path hp (path known hp) name nonzero]
      rfl

/-- What it takes to resolve a request, and what is made of it. -/
structure Resolves (o : Options) (fields : TargetFields) (uri : Option TargetUri)
    (resolved : Resolved) : Prop where
  target : o.readTarget = .ok (fields, uri)
  dialect : fields.dialect = some resolved.dialect
  host : fields.host = some resolved.host
  shown : Text.blank resolved.host = false
  port : resolved.dialect.resolvePort fields.port = .ok resolved.port
  sslMode : o.chooseMode uri = .ok resolved.sslMode
  sane : o.defect? = none
  kept : resolved =
    { resolved with
      serverName := resolved.host
      database := fields.database
      user := fields.user
      password := fields.password
      proxy := o.proxy
      ssh := o.ssh
      timeout := o.timeout
      dialectOptions := o.dialectOptions
      uri }

theorem resolve_eq_ok_iff {o : Options} {resolved : Resolved} :
    o.resolve = .ok resolved ↔ ∃ fields uri, Resolves o fields uri resolved := by
  constructor
  · intro h
    unfold resolve at h
    cases ht : o.readTarget with
    | error fault =>
      rw [ht] at h
      cases h
    | ok read =>
      obtain ⟨fields, uri⟩ := read
      rw [ht] at h
      dsimp only [bind, Except.bind] at h
      split at h
      · rename_i dialect hdialect
        split at h
        · rename_i host hhost
          obtain ⟨hhost, shown⟩ := Option.filter_eq_some_iff.mp hhost
          cases hport : dialect.resolvePort fields.port with
          | error fault =>
            rw [hport] at h
            cases h
          | ok port =>
            rw [hport] at h
            dsimp only at h
            cases hmode : o.chooseMode uri with
            | error fault =>
              rw [hmode] at h
              cases h
            | ok mode =>
              rw [hmode] at h
              dsimp only at h
              split at h
              · cases h
              · rename_i sane
                cases h
                exact ⟨fields, uri, ht, hdialect, hhost, by simpa using shown, hport, hmode, sane, rfl⟩
        · cases h
      · cases h
  · rintro ⟨fields, uri, h⟩
    have host : fields.host.filter (fun h => !Text.blank h) = some resolved.host := by
      rw [h.host, Option.filter_some, h.shown]
      rfl
    simp only [resolve, bind, Except.bind, h.target, h.dialect, host, h.port, h.sslMode, h.sane]
    exact congrArg _ h.kept.symm

theorem Resolves.needsTunnel {o : Options} {fields : TargetFields} {uri : Option TargetUri}
    {resolved : Resolved} (h : Resolves o fields uri resolved) :
    resolved.needsTunnel = (o.proxy.isSome || o.ssh.isSome) := by
  rw [h.kept]
  rfl

theorem chooseMode_moveTo (o : Options) (uri : Option TargetUri) (target : Target) (host : String)
    (port : UInt16) :
    chooseMode { o with target } (uri.map fun uri => uri.moveTo host port) = o.chooseMode uri := by
  unfold chooseMode
  cases o.sslMode <;> cases uri <;> rfl

theorem Resolves.moveTo {o : Options} {fields : TargetFields} {uri : Option TargetUri}
    {resolved : Resolved} (h : Resolves o fields uri resolved) {host : String} {port : UInt16}
    (shown : Text.blank host = false) {target : Target}
    (read : readTarget { o with target } =
      .ok ({ fields with host := some host, port := some port },
        uri.map fun uri => uri.moveTo host port)) :
    Resolves { o with target } { fields with host := some host, port := some port }
      (uri.map fun uri => uri.moveTo host port)
      { resolved.moveTo host port with serverName := host } where
  target := read
  dialect := h.dialect
  host := rfl
  shown := shown
  port := rfl
  sslMode := (chooseMode_moveTo o uri target host port).trans h.sslMode
  sane := h.sane
  kept := by
    rw [h.kept]
    rfl

/-- Moved and resolved, or resolved and moved: the request that comes out is the same in all but the
name of the server, and so are the target that it shows and the route that it takes. -/
theorem resolve_moveTo {o : Options} {resolved : Resolved} (ok : o.resolve = .ok resolved)
    (path : o.target.PathNext) {host : String} (name : HostName host.toList)
    (shown : Text.blank host = false) {port : UInt16} (nonzero : port ≠ 0) :
    ∃ moved again, o.moveTo host port = .ok moved ∧ moved.resolve = .ok again ∧
      again = { resolved.moveTo host port with serverName := host } ∧
      (resolved.moveTo host port).serverName = resolved.host ∧
      again.sanitizedUri = (resolved.moveTo host port).sanitizedUri ∧
      again.plan? = (resolved.moveTo host port).plan? := by
  obtain ⟨fields, uri, h⟩ := resolve_eq_ok_iff.mp ok
  obtain ⟨target, moved, read⟩ := moveTo_target h.target path name nonzero
  have again := resolve_eq_ok_iff.mpr ⟨_, _, h.moveTo shown read⟩
  have server : resolved.serverName = resolved.host := by
    rw [h.kept]
  exact ⟨_, _, moved, again, rfl, server, rfl, rfl⟩

/-- A request with marks of all kinds in its credentials and its query, and with hops on the way. -/
def marked : Options where
  target := .uri "mssql://s@a:p@s:s?#@[::1]:1433/m?a=b@c&sslmode=require"
  proxy := some { host := "proxy.internal", port := 1080 }
  ssh := some { host := "jump.internal", username := "ops", privateKey := "key" }
  timeout := some 500

theorem resolve_moveTo_marked :
    ∃ resolved moved again, marked.resolve = .ok resolved ∧ marked.target.PathNext ∧
      HostName "fe80::1".toList ∧ Text.blank "fe80::1" = false ∧ (40123 : UInt16) ≠ 0 ∧
      marked.moveTo "fe80::1" 40123 = .ok moved ∧ moved.resolve = .ok again ∧
      again = { resolved.moveTo "fe80::1" 40123 with serverName := "fe80::1" } ∧
      again.user = some "s@a" ∧ again.password = some "p@s:s?#" ∧ again.sslMode = .required ∧
      (resolved.moveTo "fe80::1" 40123).serverName = "::1" := by
  let uri : TargetUri :=
    { lead := "mssql://s@a:p@s:s?#@", authority := "[::1]:1433",
      tail := "/m?a=b@c&sslmode=require", dialect := .mssql, user := some "s@a",
      password := some "p@s:s?#", host := "::1", port := some 1433, database := some "m",
      query := "a=b@c&sslmode=require" }
  have read : TargetUri.parse "mssql://s@a:p@s:s?#@[::1]:1433/m?a=b@c&sslmode=require" =
      .ok uri := by cbv
  have path : marked.target.PathNext := by
    intro other hu
    cases read.symm.trans hu
    exact .inr ⟨"m?a=b@c&sslmode=require".toList, by decide +kernel⟩
  have ok : marked.resolve = .ok
      { dialect := .mssql, host := "::1", port := 1433, serverName := "::1", database := some "m",
        user := some "s@a", password := some "p@s:s?#", sslMode := .required,
        proxy := marked.proxy, ssh := marked.ssh, timeout := some 500, dialectOptions := none,
        uri := some uri } := by
    refine resolve_eq_ok_iff.mpr ⟨uri.fields, some uri, ?_, rfl, rfl, ?_, rfl, ?_, ?_, rfl⟩
    · rw [readTarget_uri rfl, read]
      rfl
    · decide +kernel
    · cbv
    · decide +kernel
  have name : HostName "fe80::1".toList := by constructor <;> decide +kernel
  have shown : Text.blank "fe80::1" = false := by decide +kernel
  have nonzero : (40123 : UInt16) ≠ 0 := by decide
  obtain ⟨moved, again, hm, ha, rfl, server, -, -⟩ := resolve_moveTo ok path name shown nonzero
  exact ⟨_, moved, _, ok, path, name, shown, nonzero, hm, ha, rfl, rfl, rfl, rfl, server⟩

end Options
end Passage
