import Passage.Proofs.Entry.Record
import Passage.Proofs.Negotiation.Probing

namespace Passage

/-- The target that a failure names. -/
def Fault.uri? : Fault → Option String
  | .databaseConnect _ uri => some uri
  | .proxyConnect _ _ uri => some uri
  | .proxyForward _ _ uri => some uri
  | .sshConnect _ _ uri => some uri
  | .sshForward _ _ uri => some uri
  | _ => none

namespace Negotiation

/-- The same failure, but for the target `uri` that it names. -/
inductive Renamed (uri : String) : Fault → Fault → Prop where
  | databaseConnect (message old : String) :
      Renamed uri (.databaseConnect message old) (.databaseConnect message uri)
  | proxyConnect (proxy message old : String) :
      Renamed uri (.proxyConnect proxy message old) (.proxyConnect proxy message uri)
  | proxyForward (proxy message old : String) :
      Renamed uri (.proxyForward proxy message old) (.proxyForward proxy message uri)
  | sshConnect (server message old : String) :
      Renamed uri (.sshConnect server message old) (.sshConnect server message uri)
  | sshForward (server message old : String) :
      Renamed uri (.sshForward server message old) (.sshForward server message uri)

/-- The failure that an attempt on `uri` is blamed on, by what is on record at the entry and by the
driver's own failure. -/
inductive Blamed (uri : String) : Option Fault → Fault → Fault → Prop where
  | hop {recorded fault : Fault} (driver : Fault) (renamed : Renamed uri recorded fault) :
      Blamed uri (some recorded) driver fault
  | configuration (cause : Misconfiguration) :
      Blamed uri none (.configuration cause) (.configuration cause)
  | named {driver fault : Fault} (renamed : Renamed uri driver fault) :
      Blamed uri none driver fault
  /-- A failure that names no target is worded as one of the database. -/
  | database {driver : Fault} (unnamed : driver.uri? = none)
      (plain : driver.layer ≠ .configuration) :
      Blamed uri none driver (.databaseConnect driver.text uri)

theorem Renamed.uri {uri : String} {old fault : Fault} (h : Renamed uri old fault) :
    fault.uri? = some uri := by
  cases h <;> rfl

theorem Blamed.uri {uri : String} {recorded : Option Fault} {driver fault : Fault}
    (h : Blamed uri recorded driver fault) :
    (∃ cause, fault = .configuration cause) ∨ fault.uri? = some uri := by
  cases h with
  | hop driver renamed => exact .inr renamed.uri
  | configuration cause => exact .inl ⟨cause, rfl⟩
  | named renamed => exact .inr renamed.uri
  | database unnamed plain => exact .inr rfl

theorem renamed_withUri (uri : String) {fault : Fault} (hop : fault.isTunnel = true) :
    Renamed uri fault (fault.withUri uri) := by
  cases fault with
  | proxyConnect proxy message old => exact .proxyConnect proxy message old
  | proxyForward proxy message old => exact .proxyForward proxy message old
  | sshConnect server message old => exact .sshConnect server message old
  | sshForward server message old => exact .sshForward server message old
  | _ => cases hop

theorem blamed_classify (uri : String) (driver : Fault) :
    Blamed uri none driver (driver.classify uri) := by
  cases driver with
  | configuration cause => exact .configuration cause
  | databaseConnect message old => exact .named (.databaseConnect message old)
  | proxyConnect proxy message old => exact .named (.proxyConnect proxy message old)
  | proxyForward proxy message old => exact .named (.proxyForward proxy message old)
  | sshConnect server message old => exact .named (.sshConnect server message old)
  | sshForward server message old => exact .named (.sshForward server message old)
  | _ => exact .database rfl (by simp [Fault.layer])

/-- The entry keeps nothing but failures of hops, so whatever is on record takes the blame. -/
theorem blamed_rootCause (uri : String) (driver : Fault) {recorded : Option Fault}
    (hops : ∀ fault, recorded = some fault → fault.isTunnel = true) :
    Blamed uri recorded driver (driver.rootCause uri recorded) := by
  cases recorded with
  | none => exact blamed_classify uri driver
  | some fault =>
    have hop := hops fault rfl
    rw [Fault.rootCause, if_pos hop]
    exact .hop driver (renamed_withUri uri hop)

theorem Ending.blamed {e : Ending} (sound : e.entry.Sound) (uri : String) (tunnelled : Bool) :
    Blamed uri (if tunnelled then e.entry.fault? else none) (e.driver.getD (.timedOut uri))
      (e.fault uri tunnelled) := by
  apply blamed_rootCause
  intro fault hf
  split at hf
  · obtain ⟨r, hr, rfl⟩ := Option.map_eq_some_iff.mp hf
    exact sound.slot r hr
  · cases hf

section

variable {κ : Type} {candidates modes : List SslMode} {results : List (SslMode × Except Fault κ)}
  {fault : Fault}

/-- A connection that fails does so with the last attempt, unless there was no mode to attempt it in. -/
theorem Probing.failed (h : Probing candidates modes results (some (.error fault))) :
    modes = [] ∧ fault = .configuration .noModesLeft ∨
      ∃ mode, modes.getLast? = some mode ∧ results.getLast? = some (mode, .error fault) := by
  generalize ho : some (Except.error fault) = outcome at h
  cases h with
  | idle none =>
    cases ho
    exact .inl ⟨rfl, rfl⟩
  | refused tried last order =>
    cases ho
    refine .inr ⟨last.1, ?_, ?_⟩
    · rw [order]
      simp
    · simp [failures]
  | settled tried found rest trial result order =>
    cases result with
    | ok connection => cases ho
    | error fault =>
      cases ho
      exact .inr ⟨found, by simp, by simp⟩
  | _ => cases ho

theorem Single.failed {mode : SslMode} (h : Single mode modes results (some (.error fault))) :
    modes.getLast? = some mode ∧ results.getLast? = some (mode, .error fault) := by
  obtain ⟨result, hres, ho⟩ := h.outcome
  cases result with
  | none => cases ho
  | some result =>
    cases result with
    | ok connection => cases ho
    | error fault =>
      cases ho
      rw [h.once, hres]
      simp

end

section

variable {σ κ : Type} {resolved : Resolved} {after : Nat} {fault : Fault}

theorem Journal.getLast?_failures {j : Journal κ} {request : DriverRequest}
    (h : j.answers.getLast? = some (request, .error fault)) :
    j.failures.getLast? = some fault := by
  obtain ⟨before, ha⟩ := List.getLast?_eq_some_iff.mp h
  rw [Journal.failures, ha, List.map_append]
  simp [failed]

variable (s : Settings) (listen : Except IoFault UInt16) (options : Options) (state : σ)

theorem connect_failed (d : Driver σ κ) {w : World σ κ} (hr : options.resolve = .ok resolved)
    (entry : resolved.needsTunnel = true → ∃ port, listen = .ok port)
    (h : connect d s listen options state = (.ends after (.error fault), w)) :
    w.journal.attempts = [] ∧ fault = .configuration .noModesLeft ∨
      ∃ request, w.journal.attempts.getLast? = some request ∧
        w.journal.answers.getLast? = some (request, .error fault) := by
  obtain ⟨route, modes, results, -, -, ran, law⟩ := connect_law d s state hr entry
  rw [h] at ran law
  change Ran route s modes results w.journal at ran
  have last : modes = [] ∧ fault = .configuration .noModesLeft ∨
      ∃ mode, modes.getLast? = some mode ∧ results.getLast? = some (mode, .error fault) := by
    split at law
    · exact Probing.failed law
    · exact .inr ⟨_, Single.failed law⟩
  rcases last with ⟨untried, idle⟩ | ⟨mode, tried, ended⟩
  · exact .inl ⟨by rw [ran.attempts, untried]; rfl, idle⟩
  · exact .inr ⟨_, ran.last tried ended⟩

/-- A request whose entry, if it needs one, could be opened fails with a misconfiguration or with a
failure that names the target as the caller gave it. Unless there was no mode to try, this is the
failure of the last attempt: the one on record at the entry when the attempt ended, and only for want
of one the driver's. An attempt that was given up has a timeout for the driver's failure. -/
theorem connect_blamed (d : Surroundings σ κ) {w : World (σ × Transit) κ}
    (hr : options.resolve = .ok resolved)
    (entry : resolved.needsTunnel = true → ∃ port, listen = .ok port)
    (h : connect d.driver s listen options (state, {}) = (.ends after (.error fault), w)) :
    let uri := resolved.sanitizedUri
    ((∃ cause, fault = .configuration cause) ∨ fault.uri? = some uri) ∧
      (w.journal.attempts = [] ∧ fault = .configuration .noModesLeft ∨
        ∃ request e, w.journal.attempts.getLast? = some request ∧
          w.journal.answers.getLast? = some (request, .error fault) ∧
          w.driver.2.endings.getLast? = some e ∧
          Blamed uri (if resolved.needsTunnel then e.entry.fault? else none)
            (e.driver.getD (.timedOut uri)) fault) := by
  intro uri
  rcases connect_failed s listen options _ d.driver hr entry h with
    ⟨untried, idle⟩ | ⟨request, tried, ended⟩
  · exact ⟨.inl ⟨_, idle⟩, .inl ⟨untried, idle⟩⟩
  · have reported := connect_failures d s listen options state hr
    obtain ⟨history, made⟩ := connect_transit d s listen options state
    rw [h] at reported made
    have last := Journal.getLast?_failures ended
    rw [reported, List.getLast?_map, Option.map_eq_some_iff] at last
    obtain ⟨e, he, rfl⟩ := last
    have endings := (Transit.run_faithful history).endings
    rw [← made] at endings
    obtain ⟨sound, -⟩ := endings e (List.mem_of_getLast? he)
    have blamed := e.blamed sound uri resolved.needsTunnel
    exact ⟨blamed.uri, .inr ⟨request, e, tried, ended, he, blamed⟩⟩

/-- A proxy that cannot be reached is named together with the target behind it. -/
theorem connect_blamed_refused :
    ∃ after w e,
      connect Surroundings.refused.driver { order := [.required, .disabled] } (.ok 40000)
          throughProxy (0, {}) =
        (.ends after
          (.error (.proxyConnect "proxy:1080" "refused" "postgres://db.internal:5000/")), w) ∧
      w.driver.2.endings.getLast? = some e ∧ e.driver = some .connectionClosed ∧
      Blamed "postgres://db.internal:5000/" e.entry.fault? .connectionClosed
        (.proxyConnect "proxy:1080" "refused" "postgres://db.internal:5000/") := by
  refine ⟨_, _, _, rfl, rfl, rfl, ?_⟩
  obtain ⟨-, ⟨untried, -⟩ | ⟨request, e, -, -, he, blamed⟩⟩ := connect_blamed
    { order := [.required, .disabled] } (.ok 40000) throughProxy 0 Surroundings.refused rfl
    (fun _ => ⟨_, rfl⟩) rfl
  · cases untried
  · cases he
    exact blamed

end
end Negotiation
end Passage
