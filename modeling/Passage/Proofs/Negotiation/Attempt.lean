import Passage.Negotiation.Connect

namespace Passage.Negotiation

variable {σ κ : Type}

/-- The driver of a server that takes connections in these modes only, and numbers the attempts. -/
def Driver.accepting (modes : List SslMode) : Driver Nat Nat where
  attempt n request :=
    (⟨.ends 1 (if request.sslMode ∈ modes then .ok n else .error (.tls "refused")), none⟩, n + 1)
  close n _ := (.ok (), n)

/-- A request for a database that is reached without hops. -/
def asking (dialect : Dialect) (mode : Option SslMode) : Options where
  target := .fields { dialect := some dialect, host := some "db.internal", port := some 5000 }
  sslMode := mode

def Route.request (r : Route) (s : Settings) (mode : SslMode) : DriverRequest :=
  r.target.request mode (tlsOptions s r.target mode)

theorem World.note_nil (w : World σ κ) : w.note [] = w := by
  rw [World.note, List.append_nil]

/-- Acts in which no connection is asked for. -/
structure Quiet (acts : Journal κ) : Prop where
  attempts : acts.attempts = []
  answers : acts.answers = []

namespace Quiet

theorem append {acts rest : Journal κ} (h : Quiet acts) (h' : Quiet rest) : Quiet (acts ++ rest) :=
  ⟨by simp [h.attempts, h'.attempts], by simp [h.answers, h'.answers]⟩

theorem logged (entries : List Report.Entry) : Quiet (κ := κ) (entries.map .logged) :=
  ⟨by simp [Journal.attempts], by simp [Journal.answers]⟩

theorem ite {acts : Journal κ} (h : Quiet acts) (b : Bool) : Quiet (if b then acts else []) := by
  cases b with
  | false => exact ⟨rfl, rfl⟩
  | true => exact h

end Quiet

/-- In these acts connections were asked for in `modes`, and what came of the attempts that ended is
`results`. -/
structure Ran (r : Route) (s : Settings) (modes : List SslMode)
    (results : List (SslMode × Except Fault κ)) (acts : Journal κ) : Prop where
  attempts : acts.attempts = modes.map (r.request s)
  answers : acts.answers = results.map fun (mode, result) => (r.request s mode, result)

section

variable {r : Route} {s : Settings} {modes more : List SslMode}
  {results later : List (SslMode × Except Fault κ)} {acts rest : Journal κ}

theorem Quiet.ran (h : Quiet acts) : Ran r s [] [] acts :=
  ⟨h.attempts, h.answers⟩

theorem Ran.append (h : Ran r s modes results acts) (h' : Ran r s more later rest) :
    Ran r s (modes ++ more) (results ++ later) (acts ++ rest) := by
  constructor
  · rw [Journal.attempts_append, h.attempts, h'.attempts, List.map_append]
  · rw [Journal.answers_append, h.answers, h'.answers, List.map_append]

theorem Ran.append_quiet (h : Ran r s modes results acts) (quiet : Quiet rest) :
    Ran r s modes results (acts ++ rest) := by
  have := h.append (quiet.ran (r := r) (s := s))
  simpa using this

theorem Ran.attempted (r : Route) (s : Settings) (mode : SslMode) :
    Ran (κ := κ) r s [mode] [] [.attempted (r.request s mode)] :=
  ⟨rfl, rfl⟩

theorem Ran.answered (r : Route) (s : Settings) (mode : SslMode) (result : Except Fault κ) :
    Ran r s [] [(mode, result)] [.answered (r.request s mode) result] :=
  ⟨rfl, rfl⟩

theorem Ran.last {mode : SslMode} {result : Except Fault κ} (h : Ran r s modes results acts)
    (tried : modes.getLast? = some mode) (ended : results.getLast? = some (mode, result)) :
    acts.attempts.getLast? = some (r.request s mode) ∧
      acts.answers.getLast? = some (r.request s mode, result) := by
  rw [h.attempts, h.answers, List.getLast?_map, List.getLast?_map, tried, ended]
  exact ⟨rfl, rfl⟩

end

/-- An attempt makes one request of the driver, and its result is what is written down for it. -/
theorem attempt_ran (d : Driver σ κ) (s : Settings) (r : Route) (mode : SslMode) (w : World σ κ) :
    ∃ acts, (attempt d s r mode w).2.journal = w.journal ++ acts ∧
      Ran r s [mode] ((attempt d s r mode w).1.outcome?.map fun result => (mode, result)).toList
        acts := by
  have warned := Quiet.logged (κ := κ) (tlsWarnings s r.target mode)
  have cleared : Quiet (if r.tunnelled then [Act.cleared (κ := κ)] else []) :=
    Quiet.ite ⟨rfl, rfl⟩ _
  have asked := (warned.append cleared).ran.append (Ran.attempted r s mode)
  have dropped : ∀ late : Bool, Quiet (if late then [Act.dropped (κ := κ)] else []) :=
    Quiet.ite ⟨rfl, rfl⟩
  unfold attempt
  dsimp only [World.note]
  split
  · exact ⟨_, by simp only [List.append_assoc]; rfl, asked.append_quiet (dropped _)⟩
  · rename_i connection _
    have answered := Ran.answered r s mode (.ok connection)
    exact ⟨_, by simp only [List.append_assoc]; rfl,
      (asked.append_quiet (dropped _)).append answered⟩
  · rename_i fault _
    let tunnel := if r.tunnelled then (d.attempt w.driver (r.request s mode)).1.tunnel else none
    have took : Quiet (if r.tunnelled then [Act.took (κ := κ) tunnel] else []) :=
      Quiet.ite ⟨rfl, rfl⟩ _
    have answered := Ran.answered (κ := κ) r s mode (.error (fault.rootCause r.uri tunnel))
    exact ⟨_, by simp only [List.append_assoc]; rfl,
      ((asked.append_quiet (dropped _)).append_quiet took).append answered⟩

/-- What preparing a request comes to: its entry could not be opened, or it was, or there is none. -/
theorem prepare_eq (listen : Except IoFault UInt16) (resolved : Resolved) (w : World σ κ) :
    (∃ fault, resolved.needsTunnel = true ∧ listen = .error fault ∧
        prepare listen resolved w = (.error (.io fault), w)) ∨
      (∃ port, resolved.needsTunnel = true ∧ listen = .ok port ∧
        prepare listen resolved w =
          (.ok (⟨resolved.moveTo loopback port, true, resolved.sanitizedUri⟩, some port),
            w.note [.listened port])) ∨
      resolved.needsTunnel = false ∧
        prepare listen resolved w = (.ok (⟨resolved, false, resolved.sanitizedUri⟩, none), w) := by
  unfold prepare
  cases resolved.needsTunnel with
  | false => exact .inr (.inr ⟨rfl, rfl⟩)
  | true =>
    cases listen with
    | error fault => exact .inl ⟨fault, rfl, rfl, rfl⟩
    | ok port => exact .inr (.inl ⟨port, rfl, rfl, rfl⟩)

def endingActs (r : Route) (request : DriverRequest) (tunnel : Option Fault) :
    Course (Except Fault κ) → Journal κ
  | .never => []
  | .ends _ (.ok connection) => [.answered request (.ok connection)]
  | .ends _ (.error fault) =>
    (if r.tunnelled then [.took tunnel] else []) ++ [.answered request (.error fault)]

/-- All that is written down for an attempt, by the driver's work `a` and by what the attempt comes to. -/
def attemptActs (s : Settings) (r : Route) (mode : SslMode) (a : Attempt κ)
    (course : Course (Except Fault κ)) : Journal κ :=
  (tlsWarnings s r.target mode).map .logged ++
    ((if r.tunnelled then [.cleared] else []) ++ (.attempted (r.request s mode) ::
      ((if (r.target.timeout.any fun limit => !a.course.endsBy limit) && r.tunnelled then [.dropped]
        else []) ++ endingActs r (r.request s mode) a.tunnel course)))

theorem attempt_journal (d : Driver σ κ) (s : Settings) (r : Route) (mode : SslMode)
    (w : World σ κ) :
    (attempt d s r mode w).2.journal = w.journal ++
      attemptActs s r mode (d.attempt w.driver (r.request s mode)).1 (attempt d s r mode w).1 := by
  unfold attempt attemptActs
  dsimp only [World.note]
  split
  · simp only [endingActs, List.append_assoc, List.append_nil]
    rfl
  · simp only [endingActs, List.append_assoc]
    rfl
  · simp only [endingActs, List.append_assoc]
    cases r.tunnelled <;> rfl

section

variable {s : Settings} {r : Route} {mode : SslMode} {a : Attempt κ} {act : Act κ}
  {course : Course (Except Fault κ)}

theorem mem_endingActs {request : DriverRequest} {tunnel : Option Fault}
    (h : act ∈ endingActs r request tunnel course) :
    (∃ result, act = .answered request result) ∨ act = .took tunnel := by
  cases course with
  | never => cases h
  | ends after result =>
    cases result with
    | ok connection => exact .inl ⟨_, List.mem_singleton.mp h⟩
    | error fault =>
      rcases List.mem_append.mp h with h | h
      · split at h
        · exact .inr (List.mem_singleton.mp h)
        · cases h
      · exact .inl ⟨_, List.mem_singleton.mp h⟩

/-- Nothing but this is done in an attempt. -/
theorem mem_attemptActs (h : act ∈ attemptActs s r mode a course) :
    (∃ entry, act = .logged entry) ∨ act = .cleared ∨ act = .attempted (r.request s mode) ∨
      (act = .dropped ∧ r.tunnelled = true ∧
        (r.target.timeout.any fun limit => !a.course.endsBy limit) = true) ∨
      (∃ result, act = .answered (r.request s mode) result) ∨ act = .took a.tunnel := by
  simp only [attemptActs, List.mem_append, List.mem_cons, List.mem_map] at h
  rcases h with ⟨entry, -, rfl⟩ | h | rfl | h | h
  · exact .inl ⟨entry, rfl⟩
  · split at h
    · exact .inr (.inl (List.mem_singleton.mp h))
    · cases h
  · exact .inr (.inr (.inl rfl))
  · split at h
    · rename_i late
      obtain ⟨late, tunnelled⟩ := Bool.and_eq_true_iff.mp late
      exact .inr (.inr (.inr (.inl ⟨List.mem_singleton.mp h, tunnelled, late⟩)))
    · cases h
  · exact .inr (.inr (.inr (.inr (mem_endingActs h))))

/-- The sessions of the entry are told to end if and only if the driver was given up. -/
theorem dropped_mem_attemptActs_iff :
    Act.dropped ∈ attemptActs s r mode a course ↔ r.tunnelled = true ∧
      (r.target.timeout.any fun limit => !a.course.endsBy limit) = true := by
  constructor
  · intro h
    rcases mem_attemptActs h with ⟨_, h⟩ | h | h | ⟨-, dropped⟩ | ⟨_, h⟩ | h
    case inr.inr.inr.inl => exact dropped
    all_goals cases h
  · rintro ⟨tunnelled, late⟩
    simp [attemptActs, tunnelled, late]

end

end Passage.Negotiation
