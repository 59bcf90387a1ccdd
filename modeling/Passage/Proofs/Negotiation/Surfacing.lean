import Passage.Proofs.Negotiation.Blame

namespace Passage

namespace Fault

/-- Whether a failure is of a kind that callers are meant to see. The other kinds are a driver's own. -/
def isPublic : Fault → Bool
  | .databaseConnect .. | .proxyConnect .. | .proxyForward .. | .sshConnect .. | .sshForward ..
  | .configuration _ => true
  | .authentication _ | .protocol _ | .tls _ | .invalidState .. | .connectionClosed | .io _ => false

theorem isPublic_classify (uri : String) (fault : Fault) : (fault.classify uri).isPublic = true := by
  cases fault <;> rfl

theorem isPublic_withUri (uri : String) (fault : Fault) :
    (fault.withUri uri).isPublic = fault.isPublic := by
  cases fault <;> rfl

theorem isPublic_of_isTunnel {fault : Fault} (hop : fault.isTunnel = true) :
    fault.isPublic = true := by
  cases fault with
  | proxyConnect | proxyForward | sshConnect | sshForward => rfl
  | _ => cases hop

theorem layer_withUri (uri : String) (fault : Fault) : (fault.withUri uri).layer = fault.layer := by
  cases fault <;> rfl

theorem layer_classify (uri : String) (fault : Fault) : (fault.classify uri).layer = fault.layer := by
  cases fault <;> rfl

/-- What is reported for an attempt is what its driver failed with, classified, or the failure of a hop. -/
theorem rootCause_cases (uri : String) (driver : Fault) (tunnel : Option Fault) :
    driver.rootCause uri tunnel = driver.classify uri ∨
      ∃ fault : Fault, fault.isTunnel = true ∧ driver.rootCause uri tunnel = fault.withUri uri := by
  unfold rootCause
  split
  · split
    · rename_i fault hop
      exact .inr ⟨fault, hop, rfl⟩
    · exact .inl rfl
  · exact .inl rfl

theorem isPublic_rootCause (uri : String) (driver : Fault) (tunnel : Option Fault) :
    (driver.rootCause uri tunnel).isPublic = true := by
  rcases rootCause_cases uri driver tunnel with h | ⟨fault, hop, h⟩
  · rw [h, isPublic_classify]
  · rw [h, isPublic_withUri, isPublic_of_isTunnel hop]

/-- A misconfiguration is only reported where the driver found one. -/
theorem layer_rootCause {driver : Fault} (other : driver.layer ≠ .configuration) (uri : String)
    (tunnel : Option Fault) : (driver.rootCause uri tunnel).layer ≠ .configuration := by
  rcases rootCause_cases uri driver tunnel with h | ⟨fault, hop, h⟩
  · rwa [h, layer_classify]
  · rw [h, layer_withUri]
    intro configuration
    simp [isTunnel, configuration] at hop

end Fault

def FailsOnly {α : Type} (P : Fault → Prop) (result : Except Fault α) : Prop :=
  ∀ fault, result = .error fault → P fault

namespace FailsOnly

variable {α β : Type} {P : Fault → Prop}

theorem ok (a : α) : FailsOnly P (.ok a) := by
  intro fault h
  cases h

theorem error {fault : Fault} (so : P fault) : FailsOnly P (.error fault : Except Fault α) := by
  intro other h
  cases h
  exact so

theorem bind {first : Except Fault α} {next : α → Except Fault β} (h : FailsOnly P first)
    (h' : ∀ a, FailsOnly P (next a)) : FailsOnly P (first >>= next) := by
  cases first with
  | error fault => exact .error (h fault rfl)
  | ok a => exact h' a

theorem map (f : α → β) {first : Except Fault α} (h : FailsOnly P first) :
    FailsOnly P (first.map f) := by
  cases first with
  | error fault => exact .error (h fault rfl)
  | ok a => exact .ok (f a)

end FailsOnly

section

variable {P : Fault → Prop} (misconfigured : ∀ cause, P (.configuration cause))
include misconfigured

theorem Options.chooseMode_fails (o : Options) (uri : Option TargetUri) :
    FailsOnly P (o.chooseMode uri) := by
  unfold chooseMode
  split
  · exact .ok _
  · apply FailsOnly.map
    unfold TargetUri.sslMode
    split
    · exact .ok _
    · apply FailsOnly.map
      unfold SslMode.read
      split
      · exact .ok _
      · exact .error (misconfigured _)
  · exact .ok _

variable (malformed : ∀ text dialect, P (TargetUri.invalid text dialect))
include malformed

theorem TargetUri.parse_fails (text : String) : FailsOnly P (parse text) := by
  unfold parse
  dsimp only
  split
  · exact .error (malformed _ _)
  · split
    · rename_i fault unread
      unfold Dialect.read at unread
      split at unread
      · cases unread
      · cases unread
        exact .error (misconfigured _)
    · split
      · exact .ok _
      · exact .error (malformed _ _)

theorem Options.readTarget_fails (o : Options) : FailsOnly P o.readTarget := by
  unfold readTarget
  split
  · exact (TargetUri.parse_fails misconfigured malformed _).map _
  · exact .ok _

/-- A request that is refused as it is put is misconfigured, or its URI is none. -/
theorem Options.resolve_fails (o : Options) : FailsOnly P o.resolve := by
  unfold resolve
  refine (o.readTarget_fails misconfigured malformed).bind fun (fields, uri) => ?_
  dsimp only
  split
  · rename_i dialect _
    split
    · apply FailsOnly.bind
      · unfold Dialect.resolvePort
        split
        · exact .ok _
        · exact .error (misconfigured _)
      · intro port
        refine (o.chooseMode_fails misconfigured uri).bind fun mode => ?_
        split
        · exact .error (misconfigured _)
        · exact .ok _
    · exact .error (misconfigured _)
  · exact .error (misconfigured _)

end

/-- Whether a check fails in no other way than callers are meant to see. -/
def OnlyPublic {α : Type} (result : Except Fault α) : Prop :=
  ∀ fault, result = .error fault → fault.isPublic = true

theorem Options.resolve_public (o : Options) : OnlyPublic o.resolve :=
  o.resolve_fails (fun _ => rfl) fun _ _ => rfl

namespace Negotiation

variable {σ κ : Type}

theorem limited_failed {limit : Option Nat} {uri : String} {course : Course (Except Fault κ)}
    {fault : Fault} (h : (limited limit uri course).outcome? = some (.error fault)) :
    (∃ after, course = .ends after (.error fault)) ∨ fault = .timedOut uri := by
  have own (h : course.outcome? = some (.error fault)) :
      ∃ after, course = .ends after (.error fault) := by
    cases course with
    | never => cases h
    | ends after result =>
      cases h
      exact ⟨after, rfl⟩
  cases limit with
  | none => exact .inl (own h)
  | some limit =>
    rw [limited, Course.within] at h
    split at h
    · exact .inl (own h)
    · cases h
      exact .inr rfl

theorem mem_failed_iff {results : List (Except Fault κ)} {fault : Fault} :
    fault ∈ failed results ↔ Except.error fault ∈ results := by
  rw [failed, List.mem_filterMap]
  constructor
  · rintro ⟨result, hm, h⟩
    cases result with
    | ok connection => cases h
    | error other =>
      cases h
      exact hm
  · intro hm
    exact ⟨_, hm, rfl⟩

section

variable {d : Driver σ κ} {s : Settings} {r : Route} {P : Fault → Prop}

/-- What is true of all failures that an attempt can be blamed on is true of all that are reported. -/
theorem failures_kept
    (own : ∀ state request after fault tunnel,
      (d.attempt state request).1.course = .ends after (.error fault) →
        P (fault.rootCause r.uri tunnel))
    (late : ∀ tunnel, P ((Fault.timedOut r.uri).rootCause r.uri tunnel)) :
    Kept d s r fun w => ∀ fault ∈ w.journal.failures, P fault where
  note {w acts} quiet h := by
    rw [World.note, Journal.failures_append, quiet.failures, List.append_nil]
    exact h
  attempt {w} mode h := by
    obtain ⟨acts, hj, ran⟩ := attempt_ran d s r mode w
    have ended := attempt_outcome d s r mode w
    rw [hj, Journal.failures_append, ran.failures]
    intro fault hf
    rcases List.mem_append.mp hf with before | now
    · exact h fault before
    · rw [mem_failed_iff] at now
      have reported : (attempt d s r mode w).1.outcome? = some (.error fault) := by
        simpa using now
      rw [ended, Option.map_eq_some_iff] at reported
      obtain ⟨result, within, explained⟩ := reported
      cases result with
      | ok connection => cases explained
      | error driver =>
        cases explained
        rcases limited_failed within with ⟨after, failed⟩ | rfl
        · exact own _ _ after driver _ failed
        · exact late _
  close {w} connection h := by
    change ∀ fault ∈ (w.journal ++ [Act.closed connection]).failures, P fault
    rw [Journal.failures_append]
    simpa [Journal.failures, failed, Journal.answers] using h

end

/-- A driver that never turns a request down as misconfigured. -/
def Driver.NeverMisconfigured (d : Driver σ κ) : Prop :=
  ∀ state request after cause,
    (d.attempt state request).1.course ≠ .ends after (.error (.configuration cause))

theorem Driver.accepting_neverMisconfigured (modes : List SslMode) :
    (Driver.accepting modes).NeverMisconfigured := by
  intro n request after cause h
  simp only [accepting] at h
  split at h <;> cases h

section

variable (d : Driver σ κ) (s : Settings) (listen : Except IoFault UInt16) (options : Options)
  (state : σ) {after : Nat} {fault : Fault} {w : World σ κ}

/-- Where a request can fail: when it is resolved, when its entry is opened, for want of modes, or in
its last attempt. -/
theorem connect_failed_cases
    (h : connect d s listen options state = (.ends after (.error fault), w)) :
    options.resolve = .error fault ∧ w = ⟨state, []⟩ ∨
      ∃ resolved, options.resolve = .ok resolved ∧
        ((∃ io, resolved.needsTunnel = true ∧ listen = .error io ∧ fault = .io io) ∨
          (resolved.needsTunnel = true → ∃ port, listen = .ok port) ∧
            (w.journal.attempts = [] ∧ fault = .configuration .noModesLeft ∨
              fault ∈ w.journal.failures)) := by
  cases hr : options.resolve with
  | error refused =>
    rw [connect, hr] at h
    cases h
    exact .inl ⟨rfl, rfl⟩
  | ok resolved =>
    refine .inr ⟨resolved, rfl, ?_⟩
    rcases entry_or_failed resolved listen with entry | ⟨io, tunnel, failed⟩
    · refine .inr ⟨entry, ?_⟩
      rcases connect_failed s listen options state d hr entry h with idle | ⟨request, -, ended⟩
      · exact .inl idle
      · exact .inr (List.mem_of_getLast? (Journal.getLast?_failures ended))
    · rw [connect_no_entry d s hr tunnel failed] at h
      cases h
      exact .inl ⟨io, tunnel, failed, rfl⟩

/-- What is true of all failures that attempts can be blamed on is true of all that a request reports. -/
theorem connect_reported {P : Fault → Prop}
    (own : ∀ uri state request after fault tunnel,
      (d.attempt state request).1.course = .ends after (.error fault) →
        P (fault.rootCause uri tunnel))
    (late : ∀ uri tunnel, P ((Fault.timedOut uri).rootCause uri tunnel)) :
    ∀ fault ∈ (connect d s listen options state).2.journal.failures, P fault := by
  apply Kept.connect (P := fun w : World σ κ => ∀ fault ∈ w.journal.failures, P fault)
  · intro _ _ r _ _
    exact failures_kept (own r.uri) (late r.uri)
  · intro fault none
    cases none

theorem Driver.NeverMisconfigured.reported (content : d.NeverMisconfigured) :
    ∀ fault ∈ (connect d s listen options state).2.journal.failures,
      fault.layer ≠ .configuration := by
  apply connect_reported
  · intro uri state request after fault tunnel failed
    apply Fault.layer_rootCause
    intro configuration
    cases fault with
    | configuration cause => exact content state request after cause failed
    | _ => cases configuration
  · intro uri tunnel
    apply Fault.layer_rootCause
    simp [Fault.timedOut, Fault.layer]

/-- Without a mode to try, a request that leaves its mode open comes no further than its entry. -/
theorem connect_idle {resolved : Resolved} (hr : options.resolve = .ok resolved)
    (entry : resolved.needsTunnel = true → ∃ port, listen = .ok port)
    (asked : resolved.sslMode = .preferred) (tls : resolved.dialect.supportsTls = true)
    (none : s.candidates = []) :
    ∃ acts, (connect d s listen options state).2 = ⟨state, acts⟩ ∧ acts.attempts = [] ∧
      ((∃ port, Act.listened port ∈ acts) ↔ resolved.needsTunnel = true) := by
  unfold connect
  rw [hr]
  cases tunnel : resolved.needsTunnel with
  | true =>
    obtain ⟨port, rfl⟩ := entry tunnel
    refine ⟨[.listened port, .stopped], ?_, rfl, by simp⟩
    simp [prepare, tunnel, negotiate, chooseMode, Resolved.moveTo, asked, tls, none, probe,
      World.note]
  | false =>
    refine ⟨[], ?_, rfl, by simp⟩
    simp [prepare, tunnel, negotiate, chooseMode, asked, tls, none, probe, World.note]

/-- Nothing is asked of the driver only where no mode is left to try. -/
theorem idle_of_no_attempts {resolved : Resolved} (hr : options.resolve = .ok resolved)
    (entry : resolved.needsTunnel = true → ∃ port, listen = .ok port)
    (idle : (connect d s listen options state).2.journal.attempts = []) :
    resolved.sslMode = .preferred ∧ resolved.dialect.supportsTls = true ∧ s.candidates = [] := by
  obtain ⟨route, modes, results, -, -, ran, law⟩ := connect_law d s state hr entry
  have untried : modes = [] := by
    have tried := ran.attempts
    rw [idle] at tried
    exact List.map_eq_nil_iff.mp tried.symm
  split at law
  · rename_i asked
    refine ⟨asked.1, asked.2, ?_⟩
    generalize granted _ = granted at law
    cases law with
    | idle none => exact none
    | refused failed last order => exact untried
    | _ => simp at untried
  · rw [law.once] at untried
    cases untried

/-- A misconfiguration that no driver finds is found before the driver is asked for anything. The entry
of a tunnel may have been opened by then: it has been exactly if the request could be resolved and has
hops, for then it is the want of a mode to try that is found. -/
theorem misconfigured_untouched_iff (content : d.NeverMisconfigured) {cause : Misconfiguration}
    (h : connect d s listen options state = (.ends after (.error (.configuration cause)), w)) :
    w.driver = state ∧ w.journal.attempts = [] ∧
      ((∀ port, Act.listened port ∉ w.journal) ↔
        ∀ resolved, options.resolve = .ok resolved → resolved.needsTunnel = false) := by
  rcases connect_failed_cases d s listen options state h with
    ⟨refused, rfl⟩ | ⟨resolved, hr, ⟨io, -, -, bound⟩ | ⟨entry, ⟨idle, -⟩ | reported⟩⟩
  · refine ⟨rfl, rfl, ?_⟩
    simp [refused]
  · cases bound
  · have untouched : (connect d s listen options state).2 = w := by rw [h]
    rw [← untouched] at idle
    obtain ⟨asked, tls, none⟩ := idle_of_no_attempts d s listen options state hr entry idle
    obtain ⟨acts, left, quiet, opened⟩ := connect_idle d s listen options state hr entry asked tls none
    rw [left] at untouched
    rw [← untouched]
    refine ⟨rfl, quiet, ?_⟩
    rw [← not_exists, opened, hr]
    simp
  · have others := content.reported d s listen options state
    rw [h] at others
    exact absurd rfl (others _ reported)

theorem misconfigured_untouched_direct :
    let w := (connect (.accepting []) { order := [] } (.ok 40000) (asking .postgres none) 0).2
    (Driver.accepting []).NeverMisconfigured ∧ w.driver = 0 ∧ w.journal.attempts = [] ∧
      ∀ port, Act.listened port ∉ w.journal := by
  intro w
  have content := Driver.accepting_neverMisconfigured []
  obtain ⟨untouched, idle, unopened⟩ := misconfigured_untouched_iff (.accepting []) { order := [] }
    (.ok 40000) (asking .postgres none) 0 (w := w) content rfl
  refine ⟨content, untouched, idle, unopened.mpr ?_⟩
  intro resolved hr
  cases hr
  rfl

/-- Behind a proxy the entry is opened before the want of a mode to try is found. -/
theorem listened_without_modes :
    (Driver.accepting []).NeverMisconfigured ∧ ∃ w,
      connect (.accepting []) { order := [] } (.ok 40000) throughProxy 0 =
          (.ends 0 (.error (.configuration .noModesLeft)), w) ∧
        Act.listened 40000 ∈ w.journal ∧ w.journal.attempts = [] :=
  ⟨Driver.accepting_neverMisconfigured [], _, rfl, .head _, rfl⟩

/-- A request fails as callers are meant to see, unless it needs an entry and the entry cannot be
opened. -/
theorem surfaced_public_iff
    (h : connect d s listen options state = (.ends after (.error fault), w)) :
    fault.isPublic = true ↔
      ∀ resolved, options.resolve = .ok resolved → resolved.needsTunnel = true →
        ∃ port, listen = .ok port := by
  constructor
  · intro shown resolved hr tunnel
    rcases connect_failed_cases d s listen options state h with
      ⟨refused, -⟩ | ⟨other, ho, ⟨io, -, -, rfl⟩ | ⟨entry, -⟩⟩
    · cases hr.symm.trans refused
    · cases shown
    · cases hr.symm.trans ho
      exact entry tunnel
  · intro entry
    rcases connect_failed_cases d s listen options state h with
      ⟨refused, -⟩ | ⟨resolved, hr, ⟨io, tunnel, failed, -⟩ | ⟨-, ⟨-, rfl⟩ | reported⟩⟩
    · exact options.resolve_public fault refused
    · obtain ⟨port, opened⟩ := entry resolved hr tunnel
      cases failed.symm.trans opened
    · rfl
    · have all := connect_reported d s listen options state (P := fun fault => fault.isPublic = true)
        (fun uri _ _ _ fault tunnel _ => fault.isPublic_rootCause uri tunnel)
        (fun uri tunnel => Fault.isPublic_rootCause uri _ tunnel)
      rw [h] at all
      exact all fault reported

theorem surfaced_public_refused :
    ∃ fault, (connect Surroundings.refused.driver { order := [.required] } (.ok 40000) throughProxy
        (0, {})).1 = .ends 1 (.error fault) ∧ fault.isPublic = true := by
  refine ⟨_, rfl, ?_⟩
  rw [surfaced_public_iff Surroundings.refused.driver { order := [.required] } (.ok 40000)
    throughProxy (0, {}) rfl]
  intro resolved hr tunnel
  exact ⟨40000, rfl⟩

/-- Where the entry of a tunnel cannot be opened, the fault of the system surfaces as it is. -/
theorem bind_fault_surfaced :
    let io : IoFault := ⟨.other, some "Cannot assign requested address (os error 99)"⟩
    (connect (.accepting []) {} (.error io) throughProxy 0).1 = .ends 0 (.error (.io io)) ∧
      (Fault.io io).isPublic = false :=
  ⟨rfl, rfl⟩

end

end Negotiation
end Passage
