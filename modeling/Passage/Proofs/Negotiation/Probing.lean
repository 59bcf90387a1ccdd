import Passage.Proofs.Negotiation.Attempt

namespace Passage.Negotiation

variable {σ κ : Type}

/-- The modes in which connections were asked for. -/
def Journal.modes (j : Journal κ) : List SslMode := j.attempts.map (·.sslMode)

/-- The attempts that ended, by their modes. -/
def Journal.results (j : Journal κ) : List (SslMode × Except Fault κ) :=
  j.answers.map fun (request, result) => (request.sslMode, result)

/-- The results of attempts that all failed. -/
def failures (failed : List (SslMode × Fault)) : List (SslMode × Except Fault κ) :=
  failed.map fun (mode, fault) => (mode, .error fault)

/-- A search through candidates after the failure `last`: which of them are tried, with which results,
and what is found. -/
inductive Search : List SslMode → Option Fault → List SslMode → List (SslMode × Except Fault κ) →
    Option (Except Fault SslMode) → Prop where
  | exhausted (last : Option Fault) :
      Search [] last [] [] (some (.error (last.getD (.configuration .noModesLeft))))
  | accepted (mode : SslMode) (rest : List SslMode) (last : Option Fault) (trial : κ) :
      Search (mode :: rest) last [mode] [(mode, .ok trial)] (some (.ok mode))
  | stalled (mode : SslMode) (rest : List SslMode) (last : Option Fault) :
      Search (mode :: rest) last [mode] [] none
  | rejected {rest modes : List SslMode} {results : List (SslMode × Except Fault κ)}
      {outcome : Option (Except Fault SslMode)} (mode : SslMode) (last : Option Fault)
      (fault : Fault) (further : Search rest (some fault) modes results outcome) :
      Search (mode :: rest) last (mode :: modes) ((mode, .error fault) :: results) outcome

/-- What a connection with an open mode comes to. All candidates up to the first that works are tried
once, and that one is tried once more; the second try is what counts. -/
inductive Probing (candidates : List SslMode) : List SslMode → List (SslMode × Except Fault κ) →
    Option (Except Fault (κ × SslMode)) → Prop where
  | idle (none : candidates = []) :
      Probing candidates [] [] (some (.error (.configuration .noModesLeft)))
  | refused (failed : List (SslMode × Fault)) (last : SslMode × Fault)
      (order : candidates = (failed ++ [last]).map Prod.fst) :
      Probing candidates candidates (failures (failed ++ [last])) (some (.error last.2))
  | settled (failed : List (SslMode × Fault)) (mode : SslMode) (rest : List SslMode) (trial : κ)
      (result : Except Fault κ) (order : candidates = failed.map Prod.fst ++ mode :: rest) :
      Probing candidates (failed.map Prod.fst ++ [mode, mode])
        (failures failed ++ [(mode, .ok trial), (mode, result)])
        (some (result.map fun connection => (connection, mode)))
  /-- A candidate's attempt never ends. -/
  | stalled (failed : List (SslMode × Fault)) (mode : SslMode) (rest : List SslMode)
      (order : candidates = failed.map Prod.fst ++ mode :: rest) :
      Probing candidates (failed.map Prod.fst ++ [mode]) (failures failed) none
  | stalledAgain (failed : List (SslMode × Fault)) (mode : SslMode) (rest : List SslMode)
      (trial : κ) (order : candidates = failed.map Prod.fst ++ mode :: rest) :
      Probing candidates (failed.map Prod.fst ++ [mode, mode])
        (failures failed ++ [(mode, .ok trial)]) none

/-- What a connection in a known mode comes to: one attempt, whose result counts. -/
structure Single (mode : SslMode) (modes : List SslMode)
    (results : List (SslMode × Except Fault κ)) (outcome : Option (Except Fault (κ × SslMode))) :
    Prop where
  once : modes = [mode]
  outcome : ∃ result : Option (Except Fault κ),
    results = (result.map fun result => (mode, result)).toList ∧
      outcome = result.map fun result => result.map fun connection => (connection, mode)

theorem Settings.candidates_eq (s : Settings) :
    s.candidates = s.order.filter fun mode =>
      mode ≠ .preferred ∧ ¬ (s.skipVerification = true ∧ mode = .verify) := by
  unfold Settings.candidates
  congr 1
  funext mode
  cases mode <;> cases s.skipVerification <;> rfl

section

variable {r : Route} {s : Settings} {modes candidates : List SslMode}
  {results : List (SslMode × Except Fault κ)} {acts : Journal κ} {last : Option Fault}

theorem Ran.modes_eq (h : Ran r s modes results acts) : acts.modes = modes := by
  rw [Journal.modes, h.attempts, List.map_map]
  exact List.map_id modes

theorem Ran.results_eq (h : Ran r s modes results acts) : acts.results = results := by
  rw [Journal.results, h.answers, List.map_map]
  exact List.map_id results

theorem Search.found {mode : SslMode}
    (h : Search candidates last modes results (some (.ok mode))) :
    ∃ failed rest trial, candidates = failed.map Prod.fst ++ mode :: rest ∧
      modes = failed.map Prod.fst ++ [mode] ∧ results = failures failed ++ [(mode, .ok trial)] := by
  generalize ho : some (Except.ok mode) = outcome at h
  induction h with
  | exhausted last => cases ho
  | accepted mode rest last trial =>
    cases ho
    exact ⟨[], rest, trial, rfl, rfl, rfl⟩
  | stalled mode rest last => cases ho
  | rejected mode last fault further ih =>
    obtain ⟨failed, rest, trial, rfl, rfl, rfl⟩ := ih ho
    exact ⟨(mode, fault) :: failed, rest, trial, rfl, rfl, rfl⟩

theorem Search.gaveUp {fault : Fault}
    (h : Search candidates last modes results (some (.error fault))) :
    ∃ failed, candidates = failed.map Prod.fst ∧ modes = candidates ∧ results = failures failed ∧
      fault = ((failed.getLast?.map Prod.snd).or last).getD (.configuration .noModesLeft) := by
  generalize ho : some (Except.error fault) = outcome at h
  induction h with
  | exhausted last =>
    cases ho
    exact ⟨[], rfl, rfl, rfl, rfl⟩
  | accepted mode rest last trial => cases ho
  | stalled mode rest last => cases ho
  | rejected mode last fault further ih =>
    obtain ⟨failed, rfl, rfl, rfl, rfl⟩ := ih ho
    refine ⟨(mode, fault) :: failed, rfl, rfl, rfl, ?_⟩
    rw [List.getLast?_cons]
    cases failed.getLast? <;> rfl

theorem Search.waits (h : Search candidates last modes results none) :
    ∃ failed mode rest, candidates = failed.map Prod.fst ++ mode :: rest ∧
      modes = failed.map Prod.fst ++ [mode] ∧ results = failures failed := by
  generalize ho : none = outcome at h
  induction h with
  | exhausted last => cases ho
  | accepted mode rest last trial => cases ho
  | stalled mode rest last => exact ⟨[], mode, rest, rfl, rfl, rfl⟩
  | rejected mode last fault further ih =>
    obtain ⟨failed, next, rest, rfl, rfl, rfl⟩ := ih ho
    exact ⟨(mode, fault) :: failed, next, rest, rfl, rfl, rfl⟩

end

variable (d : Driver σ κ) (s : Settings) (r : Route)

theorem close_quiet (connection : κ) (w : World σ κ) :
    ∃ acts, (close d connection w).2.journal = w.journal ++ acts ∧ Quiet acts :=
  ⟨[.closed connection], rfl, rfl, rfl⟩

theorem report_quiet (w : World σ κ) (metric : Report.Metric) (level : Report.Level)
    (text : String) :
    ∃ acts, ((w.note [.counted metric]).log level text).journal = w.journal ++ acts ∧ Quiet acts :=
  ⟨[.counted metric, .logged ⟨level, text⟩], by simp [World.log, World.note], rfl, rfl⟩

theorem probe_search (candidates : List SslMode) (last : Option Fault) (w : World σ κ) :
    ∃ acts modes results, (probe d s r candidates last w).2.journal = w.journal ++ acts ∧
      Ran r s modes results acts ∧
      Search candidates last modes results (probe d s r candidates last w).1.outcome? := by
  -- Induction on the candidates that are left, after any failure and in any state of the driver.
  induction candidates generalizing last w with
  | nil => exact ⟨[], [], [], by simp [probe], ⟨rfl, rfl⟩, .exhausted last⟩
  | cons mode rest ih =>
    obtain ⟨acts, hj, hran⟩ := attempt_ran d s r mode w
    unfold probe
    cases ha : attempt d s r mode w with
    | mk course w' =>
      rw [ha] at hj hran
      cases course with
      | never => exact ⟨acts, [mode], [], hj, hran, .stalled mode rest last⟩
      | ends after result =>
        cases result with
        | ok connection =>
          obtain ⟨closing, hc, closed⟩ := close_quiet d connection w'
          obtain ⟨report, hr, reported⟩ := report_quiet (close d connection w').2
            (.probed mode .ok) .debug ("sslMode=" ++ mode.name ++ " accepted by server")
          refine ⟨acts ++ (closing ++ report), [mode], [(mode, .ok connection)], ?_,
            hran.append_quiet (closed.append reported), .accepted mode rest last connection⟩
          dsimp only
          rw [hr, hc, hj, List.append_assoc, List.append_assoc]
        | error fault =>
          obtain ⟨report, hr, reported⟩ := report_quiet w' (.probed mode .error) .debug
            ("sslMode=" ++ mode.name ++ " probe failed: " ++ fault.text)
          obtain ⟨more, modes, results, hm, hmore, further⟩ := ih (some fault)
            ((w'.note [.counted (.probed mode .error)]).log .debug
              ("sslMode=" ++ mode.name ++ " probe failed: " ++ fault.text))
          refine ⟨acts ++ report ++ more, mode :: modes, (mode, .error fault) :: results, ?_,
            (hran.append_quiet reported).append hmore, ?_⟩
          · dsimp only
            rw [hm, hr, hj, List.append_assoc, List.append_assoc, List.append_assoc]
          · dsimp only
            rw [Course.outcome?_later]
            exact .rejected mode last fault further

/-- Once its mode is known, a connection takes one attempt more. -/
theorem negotiate_chosen {mode : SslMode} {after : Nat} {w chosen : World σ κ}
    (h : chooseMode d s r w = (.ends after (.ok mode), chosen)) :
    ∃ (acts : Journal κ) (result : Option (Except Fault κ)),
      (negotiate d s r w).2.journal = chosen.journal ++ acts ∧
      Ran r s [mode] (result.map fun result => (mode, result)).toList acts ∧
      (negotiate d s r w).1.outcome? =
        result.map fun result => result.map fun connection => (connection, mode) := by
  obtain ⟨acts, hj, hran⟩ := attempt_ran d s r mode chosen
  refine ⟨acts, (attempt d s r mode chosen).1.outcome?, ?_, hran, ?_⟩
  · rw [negotiate, h]
    exact hj
  · rw [negotiate, h]
    simp

theorem negotiate_single {w : World σ κ}
    (known : ¬ (r.target.sslMode = .preferred ∧ r.target.dialect.supportsTls = true)) :
    ∃ acts modes results, (negotiate d s r w).2.journal = w.journal ++ acts ∧
      Ran r s modes results acts ∧
      Single (if r.target.sslMode = .preferred then fallbackMode r.target else r.target.sslMode)
        modes results (negotiate d s r w).1.outcome? := by
  by_cases directive : r.target.sslMode = .preferred
  · have mute : r.target.dialect.supportsTls = false :=
      Bool.eq_false_iff.mpr fun tls => known ⟨directive, tls⟩
    obtain ⟨acts, result, hj, hran, ho⟩ := negotiate_chosen d s r (w := w)
      (by rw [chooseMode, if_neg (by simpa using directive), mute]; rfl)
    rw [if_pos directive]
    have warned := Quiet.logged (κ := κ) [⟨.warn, ignoredText .preferred r.target.dialect⟩]
    refine ⟨_, [_], _, ?_, warned.ran.append hran, rfl, result, rfl, ho⟩
    rw [hj, World.log, World.note, List.append_assoc]
    rfl
  · obtain ⟨acts, result, hj, hran, ho⟩ := negotiate_chosen d s r (w := w)
      (by rw [chooseMode, if_pos directive])
    rw [if_neg directive]
    exact ⟨acts, [_], _, hj, hran, rfl, result, rfl, ho⟩

theorem negotiate_probing {w : World σ κ} (directive : r.target.sslMode = .preferred)
    (tls : r.target.dialect.supportsTls = true) :
    ∃ acts modes results, (negotiate d s r w).2.journal = w.journal ++ acts ∧
      Ran r s modes results acts ∧
      Probing s.candidates modes results (negotiate d s r w).1.outcome? := by
  have hchoose : chooseMode d s r w = probe d s r s.candidates none w := by
    rw [chooseMode, if_neg (by simpa using directive), if_pos tls]
  obtain ⟨acts, modes, results, hj, hran, search⟩ := probe_search d s r s.candidates none w
  cases hp : probe d s r s.candidates none w with
  | mk course chosen =>
    rw [hp] at hj search hchoose
    cases course with
    | never =>
      obtain ⟨failed, mode, rest, order, rfl, rfl⟩ := search.waits
      refine ⟨acts, _, _, ?_, hran, ?_⟩
      · rw [negotiate, hchoose]
        exact hj
      · rw [negotiate, hchoose]
        exact .stalled failed mode rest order
    | ends after result =>
      cases result with
      | error fault =>
        obtain ⟨failed, order, hmodes, rfl, hfault⟩ := search.gaveUp
        refine ⟨acts, _, _, ?_, hran, ?_⟩
        · rw [negotiate, hchoose]
          exact hj
        · rw [negotiate, hchoose]
          change Probing s.candidates modes (failures failed) (some (.error fault))
          rw [hmodes, hfault]
          rcases List.eq_nil_or_concat failed with rfl | ⟨init, last, rfl⟩
          · rw [order]
            exact .idle rfl
          · simpa using Probing.refused init last (by simpa using order)
      | ok mode =>
        obtain ⟨failed, rest, trial, order, rfl, rfl⟩ := search.found
        obtain ⟨again, result, ha, hagain, ho⟩ := negotiate_chosen d s r hchoose
        refine ⟨acts ++ again, _, _, ?_, hran.append hagain, ?_⟩
        · rw [ha, hj, List.append_assoc]
        · rw [ho]
          cases result with
          | none => simpa using Probing.stalledAgain failed mode rest trial order
          | some result => simpa using Probing.settled failed mode rest trial result order

theorem Probing.mem {candidates modes : List SslMode}
    {results : List (SslMode × Except Fault κ)} {outcome : Option (Except Fault (κ × SslMode))}
    (h : Probing candidates modes results outcome) {mode : SslMode} (hm : mode ∈ modes) :
    mode ∈ candidates := by
  cases h with
  | idle none => cases hm
  | refused failed last order => exact hm
  | settled failed found rest trial result order => grind
  | stalled failed found rest order => grind
  | stalledAgain failed found rest trial order => grind

theorem Probing.modes_ne_nil {candidates modes : List SslMode}
    {results : List (SslMode × Except Fault κ)} {outcome : Option (Except Fault (κ × SslMode))}
    (h : Probing candidates modes results outcome) (some : candidates ≠ []) : modes ≠ [] := by
  cases h with
  | idle none => exact absurd none some
  | refused failed last order => exact some
  | settled | stalled | stalledAgain => simp

theorem fallbackMode_ne_preferred (target : Resolved) : fallbackMode target ≠ .preferred := by
  unfold fallbackMode
  split <;> simp

/-- What a connection request comes to, whatever its route. -/
def granted (course : Course (Except Fault (Established κ))) :
    Option (Except Fault (κ × SslMode)) :=
  course.outcome?.map fun result => result.map fun e => (e.connection, e.sslMode)

section

variable {resolved : Resolved} {listen : Except IoFault UInt16} {options : Options}

/-- The route to a target changes neither its dialect nor what is asked of TLS. -/
theorem prepare_ok {w opened : World σ κ} {route : Route} {port : Option UInt16}
    (h : prepare listen resolved w = (.ok (route, port), opened)) :
    (∃ acts, opened.journal = w.journal ++ acts ∧ Quiet acts) ∧
      route.target.dialect = resolved.dialect ∧ route.target.sslMode = resolved.sslMode ∧
      route.target.dialectOptions = resolved.dialectOptions := by
  rcases prepare_eq listen resolved w with
    ⟨fault, -, -, failed⟩ | ⟨entry, -, -, prepared⟩ | ⟨-, prepared⟩
  · cases failed.symm.trans h
  · cases prepared.symm.trans h
    exact ⟨⟨[.listened entry], rfl, rfl, rfl⟩, rfl, rfl, rfl⟩
  · cases prepared.symm.trans h
    exact ⟨⟨[], by simp, rfl, rfl⟩, rfl, rfl, rfl⟩

theorem prepare_of_entry (w : World σ κ)
    (entry : resolved.needsTunnel = true → ∃ port, listen = .ok port) :
    ∃ route port opened, prepare listen resolved w = (.ok (route, port), opened) := by
  rcases prepare_eq listen resolved w with
    ⟨fault, tunnel, failed, -⟩ | ⟨port, -, -, prepared⟩ | ⟨-, prepared⟩
  · obtain ⟨port, opened⟩ := entry tunnel
    cases failed.symm.trans opened
  · exact ⟨_, _, _, prepared⟩
  · exact ⟨_, _, _, prepared⟩

theorem connect_no_entry {state : σ} {fault : IoFault} (hr : options.resolve = .ok resolved)
    (tunnel : resolved.needsTunnel = true) (failed : listen = .error fault) :
    connect d s listen options state = (.ends 0 (.error (.io fault)), ⟨state, []⟩) := by
  simp [connect, hr, prepare, tunnel, failed]

theorem connect_negotiate {state : σ} {route : Route} {port : Option UInt16}
    {opened : World σ κ} (hr : options.resolve = .ok resolved)
    (hp : prepare listen resolved ⟨state, []⟩ = (.ok (route, port), opened)) :
    (∃ acts, (connect d s listen options state).2.journal =
        (negotiate d s route opened).2.journal ++ acts ∧ Quiet acts) ∧
      granted (connect d s listen options state).1 = (negotiate d s route opened).1.outcome? := by
  unfold connect
  rw [hr]
  dsimp only
  rw [hp]
  dsimp only
  cases hn : negotiate d s route opened with
  | mk course w =>
    cases course with
    | never => exact ⟨⟨[], by simp, rfl, rfl⟩, rfl⟩
    | ends after result =>
      cases result with
      | ok found => exact ⟨⟨[], by simp, rfl, rfl⟩, rfl⟩
      | error fault =>
        have stopped : Quiet (if route.tunnelled then [Act.stopped (κ := κ)] else []) :=
          Quiet.ite ⟨rfl, rfl⟩ _
        exact ⟨⟨_, rfl, stopped⟩, rfl⟩

/-- All that a request asks of the driver is asked while the mode is found and used. -/
theorem connect_ran {state : σ} {route : Route} {port : Option UInt16} {opened : World σ κ}
    {acts : Journal κ} {modes : List SslMode} {results : List (SslMode × Except Fault κ)}
    (hr : options.resolve = .ok resolved)
    (hp : prepare listen resolved ⟨state, []⟩ = (.ok (route, port), opened))
    (hj : (negotiate d s route opened).2.journal = opened.journal ++ acts)
    (hran : Ran route s modes results acts) :
    Ran route s modes results (connect d s listen options state).2.journal := by
  obtain ⟨⟨before, hb, quiet⟩, -⟩ := prepare_ok hp
  obtain ⟨⟨after, ha, closing⟩, -⟩ := connect_negotiate d s hr hp
  rw [ha, hj, hb]
  exact (quiet.ran.append hran).append_quiet closing

/-- Where the mode is open and the dialect knows TLS, the modes to try are searched through; in all
other cases the mode is known and there is one attempt. -/
theorem connect_law (state : σ) (hr : options.resolve = .ok resolved)
    (entry : resolved.needsTunnel = true → ∃ port, listen = .ok port) :
    let run := connect d s listen options state
    ∃ route modes results, route.target.dialect = resolved.dialect ∧
      route.target.dialectOptions = resolved.dialectOptions ∧
      Ran route s modes results run.2.journal ∧
      if resolved.sslMode = .preferred ∧ resolved.dialect.supportsTls = true then
        Probing s.candidates modes results (granted run.1)
      else
        Single (if resolved.sslMode = .preferred then fallbackMode resolved else resolved.sslMode)
          modes results (granted run.1) := by
  intro run
  obtain ⟨route, port, opened, hp⟩ := prepare_of_entry (⟨state, []⟩ : World σ κ) entry
  obtain ⟨-, dialect, mode, own⟩ := prepare_ok hp
  obtain ⟨-, outcome⟩ := connect_negotiate d s hr hp
  rw [outcome]
  split
  · rename_i open'
    obtain ⟨acts, modes, results, hj, hran, probing⟩ := negotiate_probing d s route (w := opened)
      (mode.trans open'.1) (by rw [dialect, open'.2])
    exact ⟨route, modes, results, dialect, own, connect_ran d s hr hp hj hran, probing⟩
  · rename_i known
    obtain ⟨acts, modes, results, hj, hran, single⟩ := negotiate_single d s route (w := opened)
      (by rwa [mode, dialect])
    rw [mode, fallbackMode, own] at single
    exact ⟨route, modes, results, dialect, own, connect_ran d s hr hp hj hran, single⟩

theorem entry_or_failed (resolved : Resolved) (listen : Except IoFault UInt16) :
    (resolved.needsTunnel = true → ∃ port, listen = .ok port) ∨
      ∃ fault, resolved.needsTunnel = true ∧ listen = .error fault := by
  cases listen with
  | ok port => exact .inl fun _ => ⟨port, rfl⟩
  | error fault =>
    cases tunnel : resolved.needsTunnel with
    | false => exact .inl fun h => by cases h
    | true => exact .inr ⟨fault, rfl, rfl⟩

theorem connect_concrete (state : σ) (hr : options.resolve = .ok resolved) :
    ∀ mode ∈ (connect d s listen options state).2.journal.modes, mode ≠ .preferred := by
  rintro mode hm rfl
  rcases entry_or_failed resolved listen with entry | ⟨fault, tunnel, failed⟩
  · obtain ⟨route, modes, results, -, -, ran, law⟩ := connect_law d s state hr entry
    rw [ran.modes_eq] at hm
    split at law
    · have hc := law.mem hm
      rw [Settings.candidates_eq] at hc
      simp at hc
    · rename_i known
      rw [law.once, List.mem_singleton] at hm
      split at hm
      · exact fallbackMode_ne_preferred resolved hm.symm
      · rename_i other
        exact other hm.symm
  · rw [connect_no_entry d s hr tunnel failed] at hm
    cases hm

/-- Where the mode is open and the dialect knows TLS, the modes to try are searched through; in all
other cases the mode is known and there is one attempt. No attempt is ever made in an open mode, and
none at all without the entry that the route needs. -/
theorem connect_probing (listen : Except IoFault UInt16) (options : Options) (state : σ)
    (hr : options.resolve = .ok resolved) :
    let run := connect d s listen options state
    let j := run.2.journal
    (∀ request ∈ j.attempts, request.sslMode ≠ .preferred) ∧
    (∀ fault, resolved.needsTunnel = true → listen = .error fault →
      j.modes = [] ∧ granted run.1 = some (.error (.io fault))) ∧
    ((resolved.needsTunnel = true → ∃ port, listen = .ok port) →
      if resolved.sslMode = .preferred ∧ resolved.dialect.supportsTls = true then
        Probing
          (s.order.filter fun mode =>
            mode ≠ .preferred ∧ ¬ (s.skipVerification = true ∧ mode = .verify))
          j.modes j.results (granted run.1)
      else
        Single (if resolved.sslMode = .preferred then fallbackMode resolved else resolved.sslMode)
          j.modes j.results (granted run.1)) := by
  intro run j
  refine ⟨?_, ?_, ?_⟩
  · intro request hm
    exact connect_concrete d s state hr _ (List.mem_map_of_mem hm)
  · intro fault tunnel failed
    have hrun : run = (.ends 0 (.error (.io fault)), ⟨state, []⟩) :=
      connect_no_entry d s hr tunnel failed
    simp [j, hrun, granted, Journal.modes, Journal.attempts, Course.outcome?, Except.map]
  · intro entry
    obtain ⟨route, modes, results, -, -, ran, law⟩ := connect_law d s state hr entry
    rw [← Settings.candidates_eq, ran.modes_eq, ran.results_eq]
    exact law

end

/-- A server that only takes encrypted connections without a look at certificates is asked twice after
it has refused the strictest mode. -/
theorem probes_until_required :
    (connect (.accepting [.required, .disabled]) {} (.error .unreachable)
      (asking .postgres none) 0).2.journal.modes = [.verify, .required, .required] ∧
    Probing [.verify, .required, .disabled]
      (connect (.accepting [.required, .disabled]) {} (.error .unreachable)
        (asking .postgres none) 0).2.journal.modes
      (connect (.accepting [.required, .disabled]) {} (.error .unreachable)
        (asking .postgres none) 0).2.journal.results
      (granted (connect (.accepting [.required, .disabled]) {} (.error .unreachable)
        (asking .postgres none) 0).1) := by
  have found := (connect_probing (.accepting [.required, .disabled]) {} (.error .unreachable)
    (asking .postgres none) 0 rfl).2.2 fun tunnel => by cases tunnel
  rw [if_pos (by decide)] at found
  exact ⟨rfl, found⟩

/-- Behind a proxy nothing is tried where the entry cannot be opened, whether the mode is open or known, although
there are candidates and the driver would let them in. -/
theorem unopened_untried :
    let behind (mode : Option SslMode) : Options :=
      { asking .postgres mode with proxy := some ⟨"proxy", 1080, none, none⟩ }
    let searched := connect (.accepting [.required]) {} (.error .unreachable) (behind none) 0
    let single := connect (.accepting [.required]) {} (.error .unreachable) (behind (some .required)) 0
    ({} : Settings).candidates = [.verify, .required, .disabled] ∧
      granted searched.1 = some (.error (.io .unreachable)) ∧
      granted single.1 = some (.error (.io .unreachable)) ∧
      ¬ Probing [.verify, .required, .disabled] searched.2.journal.modes searched.2.journal.results
        (granted searched.1) ∧
      ¬ Single .required single.2.journal.modes single.2.journal.results (granted single.1) := by
  intro behind searched single
  have untried : searched.2.journal.modes = [] := rfl
  refine ⟨rfl, rfl, rfl, fun law => ?_, fun law => ?_⟩
  · exact law.modes_ne_nil (by decide) untried
  · cases law.once

end Passage.Negotiation
