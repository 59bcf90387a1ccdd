import Passage.Proofs.Negotiation.Probing

namespace Passage.Negotiation

variable {σ κ : Type}

/-- The options encrypt where the mode is one that encrypts, and do not where it is the one that does
not. -/
def Agrees (mode : SslMode) (tls : TlsOptions) : Prop :=
  (mode = .required ∨ mode = .verify → tls.usesTls = true) ∧
    (mode = .disabled → tls.usesTls = false)

theorem agrees_manual (tls : TlsOptions) : Agrees .manual tls :=
  ⟨by simp, by simp⟩

theorem agrees_iff {mode : SslMode} (concrete : mode ≠ .preferred) (own : mode ≠ .manual)
    (tls : TlsOptions) : Agrees mode tls ↔ tls.usesTls = mode.usesTls := by
  cases mode with
  | manual => exact absurd rfl own
  | disabled => simp [Agrees, SslMode.usesTls]
  | required => simp [Agrees, SslMode.usesTls]
  | verify => simp [Agrees, SslMode.usesTls]
  | preferred => exact absurd rfl concrete

theorem usesTls_options (style : Dialect.TlsStyle) (mode : SslMode) :
    (style.options mode).usesTls = mode.usesTls := by
  cases style with
  | sslObject => cases mode <;> rfl
  | encryptFlags => rfl

/-- Leaving the checks out does not leave the encryption out. -/
theorem usesTls_effective (s : Settings) (mode : SslMode) :
    (s.effective mode).usesTls = mode.usesTls := by
  unfold Settings.effective
  split
  · rename_i skipped
    have verifies : mode = .verify := by
      simpa [SslMode.verifies] using (Bool.and_eq_true_iff.mp skipped).2
    rw [verifies]
    rfl
  · rfl

theorem effective_concrete (s : Settings) {mode : SslMode} (concrete : mode ≠ .preferred)
    (own : mode ≠ .manual) :
    s.effective mode ≠ .preferred ∧ s.effective mode ≠ .manual := by
  unfold Settings.effective
  split
  · simp
  · exact ⟨concrete, own⟩

theorem tlsOptions?_concrete (dialect : Dialect) {mode : SslMode} (concrete : mode ≠ .preferred)
    (own : mode ≠ .manual) : dialect.tlsOptions? mode = dialect.tlsStyle.map (·.options mode) := by
  cases mode with
  | manual => exact absurd rfl own
  | preferred => exact absurd rfl concrete
  | _ => rfl

theorem usesTls_tlsOptions (s : Settings) (target : Resolved) {mode : SslMode}
    (concrete : mode ≠ .preferred) (own : mode ≠ .manual) :
    (tlsOptions s target mode).usesTls =
      if target.dialect.supportsTls then mode.usesTls else (callerOptions target).usesTls := by
  obtain ⟨concrete', own'⟩ := effective_concrete s concrete own
  rw [tlsOptions, if_neg own, tlsOptions?_concrete _ concrete' own', Dialect.supportsTls]
  cases target.dialect.tlsStyle with
  | none => rfl
  | some style =>
    change (style.options (s.effective mode)).usesTls = mode.usesTls
    rw [usesTls_options, usesTls_effective]

/-- The options of a mode agree with it if the dialect has its own for the mode. Else they are the
caller's, and it is a matter of luck. -/
theorem agrees_tlsOptions_iff (s : Settings) (target : Resolved) {mode : SslMode}
    (concrete : mode ≠ .preferred) :
    Agrees mode (tlsOptions s target mode) ↔
      target.dialect.supportsTls = true ∨ mode = .manual ∨
        (callerOptions target).usesTls = mode.usesTls := by
  by_cases own : mode = .manual
  · rw [own]
    simp [agrees_manual]
  · rw [agrees_iff concrete own, usesTls_tlsOptions s target concrete own]
    cases target.dialect.supportsTls <;> simp [own]

/-- The mode that stands in for an open one always agrees with the caller's options. -/
theorem agrees_fallbackMode (s : Settings) (target : Resolved) :
    Agrees (fallbackMode target) (tlsOptions s target (fallbackMode target)) := by
  rw [agrees_tlsOptions_iff s target (fallbackMode_ne_preferred target)]
  unfold fallbackMode callerOptions
  cases target.dialectOptions with
  | none => exact .inr (.inr rfl)
  | some options => exact .inr (.inl rfl)

section

variable {candidates modes : List SslMode} {results : List (SslMode × Except Fault κ)}
  {connection : κ} {mode : SslMode}

/-- The connection that is handed out is that of the last attempt. -/
theorem Probing.last (h : Probing candidates modes results (some (.ok (connection, mode)))) :
    modes.getLast? = some mode ∧ results.getLast? = some (mode, .ok connection) := by
  generalize ho : some (Except.ok (connection, mode)) = outcome at h
  cases h with
  | settled failed found rest trial result order =>
    cases result with
    | error fault => cases ho
    | ok opened =>
      cases ho
      simp
  | _ => cases ho

theorem Single.last {chosen : SslMode}
    (h : Single chosen modes results (some (.ok (connection, mode)))) :
    mode = chosen ∧ modes.getLast? = some mode ∧
      results.getLast? = some (mode, .ok connection) := by
  obtain ⟨result, hres, ho⟩ := h.outcome
  cases result with
  | none => cases ho
  | some result =>
    cases result with
    | error fault => cases ho
    | ok opened =>
      cases ho
      rw [h.once, hres]
      simp

end

/-- An open connection belongs to a request that could be resolved and routed. -/
theorem granted_ok {d : Driver σ κ} {s : Settings} {listen : Except IoFault UInt16}
    {options : Options} {state : σ} {after : Nat} {e : Established κ} {w : World σ κ}
    (h : connect d s listen options state = (.ends after (.ok e), w)) :
    ∃ resolved, options.resolve = .ok resolved ∧
      (resolved.needsTunnel = true → ∃ port, listen = .ok port) := by
  cases hr : options.resolve with
  | error fault =>
    rw [connect, hr] at h
    cases h
  | ok resolved =>
    refine ⟨resolved, rfl, ?_⟩
    rcases entry_or_failed resolved listen with entry | ⟨fault, tunnel, failed⟩
    · exact entry
    · rw [connect_no_entry d s hr tunnel failed] at h
      cases h

/-- A connection is opened by the last request of the driver, in the mode that is reported. The options
of that request agree with the mode exactly if the dialect has TLS options, or the request left the
mode open or to its own options, or these options happen to agree. -/
theorem reported_agrees_iff (d : Driver σ κ) (s : Settings) (listen : Except IoFault UInt16)
    (options : Options) (state : σ) {after : Nat} {e : Established κ} {w : World σ κ}
    (h : connect d s listen options state = (.ends after (.ok e), w)) :
    ∃ resolved q, options.resolve = .ok resolved ∧
      w.journal.attempts.getLast? = some q ∧
      w.journal.answers.getLast? = some (q, .ok e.connection) ∧ q.sslMode = e.sslMode ∧
      (Agrees e.sslMode q.tls ↔
        resolved.dialect.supportsTls = true ∨ resolved.sslMode = .preferred ∨
          resolved.sslMode = .manual ∨
          (callerOptions resolved).usesTls = resolved.sslMode.usesTls) := by
  obtain ⟨resolved, hr, entry⟩ := granted_ok h
  obtain ⟨route, modes, results, dialect, own, ran, law⟩ := connect_law d s state hr entry
  rw [h] at ran law
  change Ran route s modes results w.journal at ran
  split at law
  · rename_i open'
    obtain ⟨tried, opened⟩ := Probing.last law
    obtain ⟨hq, ha⟩ := ran.last tried opened
    refine ⟨resolved, _, hr, hq, ha, rfl, ?_⟩
    have concrete := connect_concrete d s state hr e.sslMode
      (by rw [h, ran.modes_eq]; exact List.mem_of_getLast? tried)
    change Agrees e.sslMode (tlsOptions s route.target e.sslMode) ↔ _
    rw [agrees_tlsOptions_iff s route.target concrete, dialect]
    simp [open'.2]
  · obtain ⟨hmode, tried, opened⟩ := Single.last law
    obtain ⟨hq, ha⟩ := ran.last tried opened
    refine ⟨resolved, _, hr, hq, ha, rfl, ?_⟩
    change Agrees e.sslMode (tlsOptions s route.target e.sslMode) ↔ _
    split at hmode
    · rename_i directive
      have same : fallbackMode resolved = fallbackMode route.target := by
        rw [fallbackMode, fallbackMode, own]
      rw [hmode, same]
      simp [agrees_fallbackMode, directive]
    · rename_i known
      have caller : callerOptions route.target = callerOptions resolved := by
        rw [callerOptions, callerOptions, own]
      rw [hmode, agrees_tlsOptions_iff s route.target known, dialect, caller]
      simp [known]

/-- A request that leaves the mode open is told the truth. -/
theorem reported_agrees_open :
    ∃ e w, connect (.accepting [.required]) {} (.error .unreachable) (asking .postgres none) 0 =
        (.ends 3 (.ok e), w) ∧
      ∃ q, w.journal.attempts.getLast? = some q ∧ Agrees e.sslMode q.tls := by
  refine ⟨_, _, rfl, ?_⟩
  obtain ⟨resolved, q, hr, hq, -, -, agrees⟩ := reported_agrees_iff
    (.accepting [.required]) {} (.error .unreachable) (asking .postgres none) 0 rfl
  cases hr
  exact ⟨q, hq, agrees.mpr (.inl rfl)⟩

/-- Without TLS options of the dialect, an encrypted connection is reported and there is none. -/
theorem reported_required_in_clear :
    ∃ e w, connect (.accepting [.required]) {} (.error .unreachable)
        (asking .db2 (some .required)) 0 = (.ends 1 (.ok e), w) ∧
      e.sslMode = .required ∧
      ∃ q, w.journal.answers.getLast? = some (q, .ok e.connection) ∧ q.tls.usesTls = false :=
  ⟨_, _, rfl, rfl, _, rfl, rfl⟩

end Passage.Negotiation
