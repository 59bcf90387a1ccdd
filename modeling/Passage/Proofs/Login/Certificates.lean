import Passage.Proofs.Login.Reads
import Passage.Proofs.Negotiation.ReportedMode
import Passage.Proofs.Target.Resolving

namespace Passage

namespace Tls

theorem Roots.load_checked {parsable : List UInt8 → Bool} {files : Files} {path : String}
    {roots : Roots} (h : load parsable files path = .ok roots) : roots ≠ .unchecked := by
  unfold load at h
  split at h
  · cases h
  · cases h
  · dsimp only at h
    split at h
    · cases h
    · cases h
      exact Roots.noConfusion

/-- Settings say whether they check certificates, and only those that do can be missing an authority. -/
theorem Settings.build_cases (parsable : List UInt8 → Bool) (files : Files) (caPath : Option String)
    (accept : Bool) :
    (∃ settings, build parsable files caPath accept = .ok settings ∧
        settings.acceptInvalid = accept ∧ (settings.roots = .unchecked ↔ accept = true)) ∨
      accept = false ∧ ∃ defect, build parsable files caPath accept = .error defect := by
  cases accept with
  | true => exact .inl ⟨_, rfl, rfl, by simp⟩
  | false =>
    cases caPath with
    | none => exact .inl ⟨_, rfl, rfl, by simp⟩
    | some path =>
      cases loaded : Roots.load parsable files path with
      | error defect =>
        refine .inr ⟨rfl, defect, ?_⟩
        rw [build, loaded]
        rfl
      | ok roots =>
        refine .inl ⟨⟨some path, false, roots⟩, ?_, rfl, by simp [Roots.load_checked loaded]⟩
        rw [build, loaded]
        rfl

/-- Whether TLS options have any certificate accepted, if they ask for encryption. -/
def accepts? (options : TlsOptions) : Option Bool := (request? options).map Prod.fst

/-- What TLS options come to: nothing is encrypted, or there are settings that do as the options say, or
the authorities to check a certificate against cannot be loaded. -/
theorem settingsFor_cases (parsable : List UInt8 → Bool) (files : Files) (ca : Option String)
    (options : TlsOptions) :
    (options.usesTls = false ∧ settingsFor parsable files ca options = .ok none) ∨
      (∃ settings, options.usesTls = true ∧
        settingsFor parsable files ca options = .ok (some settings) ∧
        accepts? options = some settings.acceptInvalid ∧
        (settings.roots = .unchecked ↔ settings.acceptInvalid = true)) ∨
      options.usesTls = true ∧ accepts? options = some false ∧
        ∃ defect, settingsFor parsable files ca options = .error defect := by
  have uses := isSome_request options
  unfold settingsFor accepts?
  cases asked : request? options with
  | none =>
    rw [asked] at uses
    exact .inl ⟨uses.symm, rfl⟩
  | some request =>
    obtain ⟨accept, own⟩ := request
    rw [asked] at uses
    rcases Settings.build_cases parsable files (own.or ca) accept with
      ⟨settings, built, rfl, unchecked⟩ | ⟨rfl, defect, failed⟩
    · refine .inr (.inl ⟨settings, uses.symm, ?_, rfl, unchecked⟩)
      dsimp only
      rw [built]
      rfl
    · refine .inr (.inr ⟨uses.symm, rfl, defect, ?_⟩)
      dsimp only
      rw [failed]
      rfl

theorem accepts?_manual_iff (value : Json) :
    accepts? (.manual value) = some true ↔
      ∃ members, value = .object members ∧ value.get? "rejectUnauthorized" = some (.bool false) := by
  cases value with
  | object members =>
    have asked : accepts? (.manual (.object members)) =
        some (!((Json.get? "rejectUnauthorized" (.object members)).bind Json.bool?).getD true) := rfl
    rw [asked]
    cases Json.get? "rejectUnauthorized" (.object members) with
    | none => simp
    | some member => cases member <;> simp [Json.bool?]
  | bool b => cases b <;> simp [accepts?, request?, TlsOptions.usesTls, Json.get?]
  | _ => simp [accepts?, request?, TlsOptions.usesTls, Json.get?]

end Tls

theorem TlsOptions.usesTls_manual_iff (value : Json) :
    (TlsOptions.manual value).usesTls = false ↔ value = .null ∨ value = .bool false := by
  cases value with
  | bool b => cases b <;> simp [usesTls]
  | _ => simp [usesTls]

namespace Negotiation

/-- Modes in which nothing is encrypted, for a caller with these options. -/
inductive InClear (own : Option Json) : SslMode → Prop where
  | disabled : InClear own .disabled
  | manual (off : own = none ∨ own = some .null ∨ own = some (.bool false)) : InClear own .manual

/-- Modes in which any certificate is accepted: the caller or the settings have asked for it. -/
inductive Unverified (s : Settings) (own : Option Json) : SslMode → Prop where
  | required : Unverified s own .required
  | skipped (skip : s.skipVerification = true) : Unverified s own .verify
  | manual {members : List (String × Json)} (object : own = some (.object members))
      (off : (Json.object members).get? "rejectUnauthorized" = some (.bool false)) :
      Unverified s own .manual

theorem tlsOptions_sslObject (s : Settings) {target : Resolved}
    (style : target.dialect.tlsStyle = some .sslObject) :
    tlsOptions s target .disabled = .disabled ∧ tlsOptions s target .required = .ssl false ∧
      tlsOptions s target .verify = .ssl (!s.skipVerification) ∧
      tlsOptions s target .manual = .manual (target.dialectOptions.getD .null) := by
  cases skip : s.skipVerification <;>
    simp [tlsOptions, Settings.effective, skip, Dialect.tlsOptions?, style, SslMode.verifies,
      Dialect.TlsStyle.options, SslMode.usesTls]

section

variable (s : Settings) {target : Resolved} {mode : SslMode}
  (style : target.dialect.tlsStyle = some .sslObject) (concrete : mode ≠ .preferred)
include style concrete

theorem usesTls_eq_false_iff :
    (tlsOptions s target mode).usesTls = false ↔ InClear target.dialectOptions mode := by
  obtain ⟨disabled, required, verify, manual⟩ := tlsOptions_sslObject s style
  cases mode with
  | preferred => exact absurd rfl concrete
  | disabled =>
    rw [disabled]
    exact ⟨fun _ => .disabled, fun _ => rfl⟩
  | required =>
    rw [required]
    exact ⟨nofun, nofun⟩
  | verify =>
    rw [verify]
    exact ⟨nofun, nofun⟩
  | manual =>
    rw [manual, TlsOptions.usesTls_manual_iff]
    constructor
    · intro off
      refine .manual ?_
      cases own : target.dialectOptions <;> simp_all
    · rintro ⟨⟩
      rename_i off
      rcases off with own | own | own <;> simp [own]

theorem accepts_iff :
    Tls.accepts? (tlsOptions s target mode) = some true ↔
      Unverified s target.dialectOptions mode := by
  obtain ⟨disabled, required, verify, manual⟩ := tlsOptions_sslObject s style
  cases mode with
  | preferred => exact absurd rfl concrete
  | disabled =>
    rw [disabled]
    exact ⟨nofun, nofun⟩
  | required =>
    rw [required]
    exact ⟨fun _ => .required, fun _ => rfl⟩
  | verify =>
    rw [verify]
    constructor
    · intro h
      refine .skipped ?_
      simpa [Tls.accepts?, Tls.request?] using h
    · rintro ⟨⟩
      rename_i skip
      simp [Tls.accepts?, Tls.request?, skip]
  | manual =>
    rw [manual, Tls.accepts?_manual_iff]
    constructor
    · rintro ⟨members, object, off⟩
      rw [object] at off
      cases own : target.dialectOptions with
      | none =>
        rw [own] at object
        cases object
      | some value =>
        rw [own] at object
        exact .manual (congrArg some object) off
    · rintro ⟨⟩
      rename_i members object off
      rw [object]
      exact ⟨members, rfl, off⟩

end

variable {σ κ : Type}

/-- What the driver is asked for in a mode follows from the mode and the caller's own options. -/
structure Follows (s : Settings) (own : Option Json) (q : DriverRequest) (target : Resolved) :
    Prop where
  dialect : target.dialect = q.dialect
  own : target.dialectOptions = own
  concrete : q.sslMode ≠ .preferred
  tls : q.tls = tlsOptions s target q.sslMode

theorem connect_follows (d : Driver σ κ) (s : Settings) (listen : Except IoFault UInt16)
    (options : Options) (state : σ) :
    ∀ q ∈ (connect d s listen options state).2.journal.attempts,
      ∃ target, Follows s options.dialectOptions q target := by
  intro q asked
  cases hr : options.resolve with
  | error fault =>
    rw [connect, hr] at asked
    cases asked
  | ok resolved =>
    have concrete := connect_concrete d s state hr q.sslMode (List.mem_map_of_mem asked)
    rcases entry_or_failed resolved listen with entry | ⟨fault, tunnel, failed⟩
    · obtain ⟨route, modes, results, -, own, ran, -⟩ := connect_law d s state hr entry
      obtain ⟨fields, uri, h⟩ := Options.resolve_eq_ok_iff.mp hr
      rw [ran.attempts] at asked
      obtain ⟨mode, -, rfl⟩ := List.mem_map.mp asked
      exact ⟨route.target, rfl, by rw [own, h.kept], concrete, rfl⟩
    · rw [connect_no_entry d s hr tunnel failed] at asked
      cases asked

/-- What has led to a connection: modes that were refused, the trials of the mode that was not, and its
last attempt. -/
structure Led (mode : SslMode) (connection : κ) (modes : List SslMode)
    (results : List (SslMode × Except Fault κ)) (refused : List (SslMode × Fault))
    (trials : List κ) : Prop where
  answered : modes = results.map Prod.fst
  results : results = failures refused ++ trials.map (fun trial => (mode, .ok trial)) ++
    [(mode, .ok connection)]

section

variable {candidates modes : List SslMode} {results : List (SslMode × Except Fault κ)}
  {connection : κ} {mode : SslMode}

theorem Probing.led (h : Probing candidates modes results (some (.ok (connection, mode)))) :
    ∃ refused trial, Led mode connection modes results refused [trial] := by
  generalize ho : some (Except.ok (connection, mode)) = outcome at h
  cases h with
  | settled refused found rest trial result order =>
    cases result with
    | error fault => cases ho
    | ok opened =>
      cases ho
      exact ⟨refused, trial, by simp [failures], by simp⟩
  | _ => cases ho

theorem Single.led {chosen : SslMode}
    (h : Single chosen modes results (some (.ok (connection, mode)))) :
    Led mode connection modes results [] [] := by
  obtain ⟨result, hres, ho⟩ := h.outcome
  cases result with
  | none => cases ho
  | some result =>
    cases result with
    | error fault => cases ho
    | ok opened =>
      cases ho
      exact ⟨by rw [h.once, hres]; rfl, by rw [hres]; rfl⟩

end

/-- A connection is opened by the request that its mode was tried with. -/
theorem connect_led (d : Driver σ κ) (s : Settings) (listen : Except IoFault UInt16)
    (options : Options) (state : σ) {after : Nat} {e : Established κ} {w : World σ κ}
    (h : connect d s listen options state = (.ends after (.ok e), w)) :
    ∃ (resolved : Resolved) (q : DriverRequest)
      (refused : List (DriverRequest × Except Fault κ)) (trials : List κ),
      options.resolve = .ok resolved ∧ q.sslMode = e.sslMode ∧
      w.journal.attempts = w.journal.answers.map Prod.fst ∧
      w.journal.answers =
        refused ++ trials.map (fun trial => (q, .ok trial)) ++ [(q, .ok e.connection)] ∧
      (∀ answer ∈ refused, ∃ fault, answer.2 = .error fault) ∧
      trials.length =
        if resolved.sslMode = .preferred ∧ resolved.dialect.supportsTls = true then 1 else 0 := by
  obtain ⟨resolved, hr, entry⟩ := granted_ok h
  obtain ⟨route, modes, results, -, -, ran, law⟩ := connect_law d s state hr entry
  rw [h] at ran law
  have led : ∃ refused trials, Led e.sslMode e.connection modes results refused trials ∧
      trials.length =
        if resolved.sslMode = .preferred ∧ resolved.dialect.supportsTls = true then 1 else 0 := by
    split at law
    · rename_i searched
      obtain ⟨refused, trial, led⟩ := Probing.led law
      exact ⟨refused, [trial], led, (if_pos searched).symm⟩
    · rename_i known
      exact ⟨[], [], Single.led law, (if_neg known).symm⟩
  obtain ⟨refused, trials, ⟨answered, found⟩, count⟩ := led
  refine ⟨resolved, route.request s e.sslMode,
    (failures refused).map fun answer => (route.request s answer.1, answer.2), trials, hr, rfl, ?_,
    ?_, ?_, count⟩
  · rw [ran.attempts, ran.answers, answered]
    simp
  · rw [ran.answers, found]
    simp
  · intro answer refusal
    simp only [failures, List.map_map, List.mem_map] at refusal
    obtain ⟨⟨mode, fault⟩, -, rfl⟩ := refusal
    exact ⟨fault, rfl⟩

/-- An open mode is found where there is one to try and every attempt in it succeeds. -/
theorem negotiate_of_tried {d : Driver σ κ} {s : Settings} {r : Route} {mode : SslMode}
    {connection : κ} (directive : r.target.sslMode = .preferred)
    (knows : r.target.dialect.supportsTls = true) (only : s.candidates = [mode])
    (tried : ∀ w, (attempt d s r mode w).1.outcome? = some (.ok connection)) (w : World σ κ) :
    (negotiate d s r w).1.outcome? = some (.ok (connection, mode)) := by
  obtain ⟨after, first⟩ := Course.ends_of_outcome? (tried w)
  obtain ⟨later, found⟩ : ∃ later, chooseMode d s r w = (.ends after (.ok mode), later) := by
    rw [chooseMode, if_neg (not_not_intro directive), if_pos knows, only, probe,
      show attempt d s r mode w = (_, _) from Prod.ext first rfl]
    exact ⟨_, rfl⟩
  rw [negotiate, found]
  dsimp only
  rw [Course.outcome?_later, Course.outcome?_map, tried]
  rfl

end Negotiation

namespace Login

/-- An attempt is encrypted as its mode and the caller's own options have it: in the clear only where they
say so, and with any certificate only where they say so. Settings that cannot be made open nothing, and
those that can are the ones the connection is run with. -/
structure Guarded (ls : Settings) (around : Surroundings) (s : Negotiation.Settings)
    (own : Option Json) (q : DriverRequest) : Prop where
  clear_iff : prepare ls around q = .ok none ↔ Negotiation.InClear own q.sslMode
  accepts : ∀ tls, prepare ls around q = .ok (some tls) →
    (tls.acceptInvalid = true ↔ Negotiation.Unverified s own q.sslMode) ∧
      (tls.roots = .unchecked ↔ tls.acceptInvalid = true)
  fails : ∀ defect, prepare ls around q = .error defect →
    ¬ Negotiation.Unverified s own q.sslMode ∧
      ∀ peer, connect ls around q peer = { course := .ends 0 (.error (.configuration defect)) }
  runs : ∀ peer c, (connect ls around q peer).connection = some c →
    ∃ tls heard, prepare ls around q = .ok tls ∧ heard <+: Peer.events peer ∧
      c = (Connection.start (credentialsFor ls around q) q.serverName tls).run around.primitives heard

section

variable {ls : Settings} {around : Surroundings} {q : DriverRequest}

theorem prepare_postgres (postgres : q.dialect = .postgres) :
    prepare ls around q = Tls.settingsFor around.parsable around.files ls.caPath q.tls :=
  if_neg (not_not_intro postgres)

theorem connect_runs {tls : Option Tls.Settings} (ready : prepare ls around q = .ok tls) {peer : Peer}
    {c : Connection} (h : (connect ls around q peer).connection = some c) :
    ∃ heard, heard <+: Peer.events peer ∧
      c = (Connection.start (credentialsFor ls around q) q.serverName tls).run around.primitives
        heard := by
  rw [connect, ready] at h
  cases given : dialled q peer with
  | never =>
    rw [given] at h
    cases h
  | ends after result =>
    rw [given] at h
    cases result with
    | error fault => cases h
    | ok timed =>
      obtain ⟨heard, part, last, -⟩ := Connection.course_run around.primitives
        (Connection.start (credentialsFor ls around q) q.serverName tls) timed
      cases h
      rw [dialled_ok given]
      exact ⟨heard, part, last⟩

theorem guarded_of_follows {s : Negotiation.Settings} {own : Option Json} {target : Resolved}
    (postgres : q.dialect = .postgres) (h : Negotiation.Follows s own q target) :
    Guarded ls around s own q := by
  have style : target.dialect.tlsStyle = some .sslObject := by
    rw [h.dialect, postgres]
    rfl
  have inClear := Negotiation.usesTls_eq_false_iff s style h.concrete
  have accepts := Negotiation.accepts_iff s style h.concrete
  rw [h.own, ← h.tls] at inClear accepts
  have comes := Tls.settingsFor_cases around.parsable around.files ls.caPath q.tls
  rw [← prepare_postgres postgres] at comes
  refine ⟨?_, ?_, ?_, ?_⟩
  · rw [← inClear]
    rcases comes with ⟨off, ready⟩ | ⟨settings, on, ready, -⟩ | ⟨on, -, defect, failed⟩
    · simp [off, ready]
    · simp [on, ready]
    · simp [on, failed]
  · intro tls ready
    rcases comes with ⟨-, ready'⟩ | ⟨settings, -, ready', asked, unchecked⟩ | ⟨-, -, defect, failed⟩
    · cases ready'.symm.trans ready
    · cases ready'.symm.trans ready
      rw [← accepts, asked, Option.some.injEq]
      exact ⟨Iff.rfl, unchecked⟩
    · cases failed.symm.trans ready
  · intro defect failed
    refine ⟨?_, connect_failed failed⟩
    rcases comes with ⟨-, ready⟩ | ⟨settings, -, ready, -⟩ | ⟨-, asked, -⟩
    · cases ready.symm.trans failed
    · cases ready.symm.trans failed
    · rw [← accepts, asked]
      simp
  · intro peer c opened
    cases ready : prepare ls around q with
    | error defect =>
      rw [connect_failed ready] at opened
      cases opened
    | ok tls =>
      obtain ⟨heard, part, ran⟩ := connect_runs ready opened
      exact ⟨tls, heard, rfl, part, ran⟩

end

/-- Certificates are checked unless the caller asks for something else, and a connection is opened by the
very request that its mode was tried with, where there was a trial. -/
theorem verified_unless_asked {σ κ : Type} (ls : Settings) (around : Surroundings)
    (peers : σ → DriverRequest → Peer) (next : σ → Attempted → σ) (name : σ → Opened → κ)
    (leave : σ → κ → σ) (s : Negotiation.Settings) (listen : Except IoFault UInt16)
    (options : Options) (state : σ) :
    let run := Negotiation.connect (driver ls around peers next name leave) s listen options state
    (∀ q ∈ run.2.journal.attempts, q.dialect = .postgres →
      Guarded ls around s options.dialectOptions q) ∧
    ∀ after e, run.1 = .ends after (.ok e) →
      ∃ (resolved : Resolved) (q : DriverRequest)
        (refused : List (DriverRequest × Except Fault κ)) (trials : List κ),
        options.resolve = .ok resolved ∧ q.sslMode = e.sslMode ∧
        run.2.journal.attempts = run.2.journal.answers.map Prod.fst ∧
        run.2.journal.answers =
          refused ++ trials.map (fun trial => (q, .ok trial)) ++ [(q, .ok e.connection)] ∧
        (∀ answer ∈ refused, ∃ fault, answer.2 = .error fault) ∧
        trials.length =
          if resolved.sslMode = .preferred ∧ resolved.dialect.supportsTls = true then 1 else 0 := by
  intro run
  constructor
  · intro q asked postgres
    obtain ⟨target, follows⟩ := Negotiation.connect_follows _ s listen options state q asked
    exact guarded_of_follows postgres follows
  · intro after e granted
    exact Negotiation.connect_led _ s listen options state (Prod.ext granted rfl)

/-- Two runs: the mode is open, the only one to try is the one without TLS, and the server is ready at once;
and a caller wants certificates checked where the checks are switched off, and the server does not answer. -/
theorem verified_unless_asked_open :
    let peer : Peer := .ends 3 (.ok (closing [(0, [90, 0, 0, 0, 5, 73])] 0))
    let d (peer : Peer) : Negotiation.Driver Unit Unit := driver {} plainSurroundings
      (fun _ _ => peer) (fun _ _ => ()) (fun _ _ => ()) fun _ _ => ()
    let run := Negotiation.connect (d peer) { order := [.disabled] } (.error .unreachable)
      (Negotiation.asking .postgres none) ()
    let vain := Negotiation.connect (d .never) { skipVerification := true } (.error .unreachable)
      (Negotiation.asking .postgres (some .verify)) ()
    (∃ after e, run.1 = .ends after (.ok e) ∧ e.sslMode = .disabled ∧
      ∃ q refused, run.2.journal.answers = refused ++ [(q, .ok ()), (q, .ok ())]) ∧
    ∃ q ∈ vain.2.journal.attempts, ∃ tls, prepare {} plainSurroundings q = .ok (some tls) ∧
      tls.acceptInvalid = true := by
  intro peer d run vain
  refine ⟨?_, ?unchecked⟩
  case unchecked =>
    have guarded := (verified_unless_asked {} plainSurroundings (fun _ _ => .never) (fun _ _ => ())
      (fun _ _ => ()) (fun _ _ => ()) { skipVerification := true } (.error .unreachable)
      (Negotiation.asking .postgres (some .verify)) ()).1 _ List.mem_cons_self rfl
    exact ⟨_, List.mem_cons_self, _, rfl, (guarded.accepts _ rfl).1.mpr (.skipped rfl)⟩
  let resolved : Resolved := {
    dialect := .postgres, host := "db.internal", port := 5000, serverName := "db.internal"
    database := none, user := none, password := none, sslMode := .preferred, proxy := none
    ssh := none, timeout := none, dialectOptions := none, uri := none }
  let route : Negotiation.Route := ⟨resolved, false, resolved.sanitizedUri⟩
  let s : Negotiation.Settings := { order := [.disabled] }
  have tried (w : Negotiation.World Unit Unit) :
      (Negotiation.attempt (d peer) s route .disabled w).1.outcome? = some (.ok ()) := by
    have ready : prepare {} plainSurroundings (route.request s .disabled) = .ok none := rfl
    have opened := connect_ready ready rfl 3
      (show stream [(0, [90, 0, 0, 0, 5, 73])] = [90, 0, 0, 0, 5, 73] from rfl) 0
    have came := Negotiation.attempt_outcome (d peer) s route .disabled w
    change _ = ((connect {} plainSurroundings (route.request s .disabled) peer).course.map
      _).outcome?.map _ at came
    rw [Course.outcome?_map, opened] at came
    exact came
  have hr : (Negotiation.asking .postgres none).resolve = .ok resolved := rfl
  have hp : Negotiation.prepare (.error .unreachable) resolved
    (⟨(), []⟩ : Negotiation.World Unit Unit) = (.ok (route, none), ⟨(), []⟩) := rfl
  obtain ⟨-, granted⟩ := Negotiation.connect_negotiate (d peer) s hr hp
  rw [Negotiation.negotiate_of_tried rfl rfl rfl tried, Negotiation.granted] at granted
  obtain ⟨result, ended, same⟩ := Option.map_eq_some_iff.mp granted
  obtain ⟨after, ends⟩ := Course.ends_of_outcome? ended
  cases result with
  | error fault => cases same
  | ok e =>
    have mode : e.sslMode = .disabled := (Prod.mk.inj (Except.ok.inj same)).2
    obtain ⟨resolved', q, refused, trials, hr', -, -, answers, -, count⟩ :=
      (verified_unless_asked {} plainSurroundings (fun _ _ => peer) (fun _ _ => ()) (fun _ _ => ())
        (fun _ _ => ()) s (.error .unreachable) (Negotiation.asking .postgres none) ()).2 after e ends
    cases hr.symm.trans hr'
    obtain ⟨⟨⟩, rfl⟩ := List.length_eq_one_iff.mp count
    exact ⟨after, e, ends, mode, q, refused, by simpa using answers⟩

end Login
end Passage
