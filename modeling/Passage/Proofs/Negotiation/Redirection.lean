import Passage.Proofs.Negotiation.Endings
import Passage.Proofs.Target.Resolving

namespace Passage

/-- The request with another place to dial. -/
def DriverRequest.dialledAt (r : DriverRequest) (host : String) (port : UInt16) : DriverRequest :=
  { r with host, port }

theorem Fault.rootCause_untroubled {tunnel : Option Fault}
    (calm : ∀ fault, tunnel = some fault → fault.isTunnel = false) (uri : String) (driver : Fault) :
    driver.rootCause uri tunnel = driver.classify uri := by
  cases tunnel with
  | none => rfl
  | some fault =>
    have other := calm fault rfl
    simp [rootCause, other]

def Resolved.withoutHops (r : Resolved) : Resolved :=
  { r with proxy := none, ssh := none }

namespace Options

/-- The same request, without any hop on the way. -/
def withoutHops (o : Options) : Options :=
  { o with proxy := none, ssh := none }

/-- Nothing keeps the hops from being used. -/
structure HopsInOrder (o : Options) : Prop where
  proxy : o.proxy.bind Proxy.defect? = none
  ssh : o.ssh.bind JumpHost.defect? = none

theorem HopsInOrder.defect? {o : Options} (h : o.HopsInOrder) : o.defect? = o.withoutHops.defect? := by
  rw [Options.defect?, h.proxy, h.ssh]
  rfl

theorem resolve_withoutHops {o : Options} (h : o.HopsInOrder) :
    o.withoutHops.resolve = o.resolve.map Resolved.withoutHops := by
  have target : o.withoutHops.readTarget = o.readTarget := rfl
  have mode (uri : Option TargetUri) : o.withoutHops.chooseMode uri = o.chooseMode uri := rfl
  unfold resolve
  rw [target, h.defect?]
  cases o.readTarget with
  | error fault => rfl
  | ok read =>
    obtain ⟨fields, uri⟩ := read
    dsimp only [bind, Except.bind]
    rw [mode]
    split
    · split
      · rename_i dialect _ _ host _
        cases dialect.resolvePort fields.port with
        | error fault => rfl
        | ok port =>
          cases o.chooseMode uri with
          | error fault => rfl
          | ok chosen =>
            dsimp only
            split <;> rfl
      · rfl
    · rfl

end Options

namespace Negotiation

variable {σ κ : Type}

/-- A driver that does not look at where it dials. -/
def Driver.Blind (d : Driver σ κ) : Prop :=
  ∀ (state : σ) (r : DriverRequest) (host : String) (port : UInt16),
    (d.attempt state (r.dialledAt host port)).1.course = (d.attempt state r).1.course ∧
      (d.attempt state (r.dialledAt host port)).2 = (d.attempt state r).2

/-- An act as it is done at another place to dial, if it is not one of the entry. -/
def Act.seenAt (host : String) (port : UInt16) : Act κ → Option (Act κ)
  | .attempted request => some (.attempted (request.dialledAt host port))
  | .answered request result => some (.answered (request.dialledAt host port) result)
  | .closed connection => some (.closed connection)
  | .logged entry => some (.logged entry)
  | .counted metric => some (.counted metric)
  | .listened _ | .cleared | .dropped | .took _ | .stopped => none

/-- The journal without what was done at the entry, and with another place to dial. -/
def Journal.seenAt (j : Journal κ) (host : String) (port : UInt16) : Journal κ :=
  j.filterMap (Act.seenAt host port)

section

variable (host : String) (port : UInt16)

theorem Journal.seenAt_append (a b : Journal κ) :
    seenAt (a ++ b) host port = a.seenAt host port ++ b.seenAt host port :=
  List.filterMap_append

theorem Journal.attempts_seenAt (j : Journal κ) :
    (j.seenAt host port).attempts = j.attempts.map (·.dialledAt host port) := by
  rw [attempts, attempts, seenAt, List.filterMap_filterMap, List.map_filterMap]
  congr 1
  funext act
  cases act <;> rfl

theorem Journal.closings_seenAt (j : Journal κ) : (j.seenAt host port).closings = j.closings := by
  rw [closings, closings, seenAt, List.filterMap_filterMap]
  congr 1
  funext act
  cases act <;> rfl

end

def Journal.taken (j : Journal κ) : List Fault :=
  j.filterMap fun
    | .took fault => fault
    | _ => none

theorem Journal.mem_taken {j : Journal κ} {fault : Fault} (h : Act.took (some fault) ∈ j) :
    fault ∈ j.taken :=
  List.mem_filterMap.mpr ⟨_, h, rfl⟩

/-- No failure of a hop was found on record when an attempt ended. -/
def Journal.Untroubled (j : Journal κ) : Prop :=
  ∀ fault ∈ j.taken, fault.isTunnel = false

theorem Journal.Untroubled.of_append {a b : Journal κ} (h : Untroubled (a ++ b)) : a.Untroubled := by
  intro fault taken
  refine h fault ?_
  rw [Journal.taken, List.filterMap_append]
  exact List.mem_append_left _ taken

theorem troubled_kept (d : Driver σ κ) (s : Settings) (r : Route) :
    Kept d s r fun w => ¬ w.journal.Untroubled where
  note _ h := fun calm => h calm.of_append
  attempt {w} mode h := by
    rw [attempt_journal]
    exact fun calm => h calm.of_append
  close connection h := fun calm => h (Journal.Untroubled.of_append (b := [.closed connection]) calm)

/-- The same route, without the tunnel that leads there. -/
def Route.untunnelled (r : Route) (host : String) (port : UInt16) (uri : Option TargetUri) : Route where
  target := { r.target.withoutHops with host, port, uri }
  tunnelled := false
  uri := r.uri

/-- The world of a request with a tunnel, and that of the same request without it. -/
structure Parallel (host : String) (port : UInt16) (w direct : World σ κ) : Prop where
  driver : direct.driver = w.driver
  journal : direct.journal = w.journal.seenAt host port

section

variable {d : Driver σ κ} (blind : d.Blind) (s : Settings) {r : Route} (tunnelled : r.tunnelled = true)
  {host : String} {port : UInt16} (uri : Option TargetUri) {w direct : World σ κ}

theorem Parallel.note (h : Parallel host port w direct) {acts seen : Journal κ}
    (same : seen = acts.seenAt host port) : Parallel host port (w.note acts) (direct.note seen) := by
  refine ⟨h.driver, ?_⟩
  rw [World.note, World.note, Journal.seenAt_append, h.journal, same]

theorem Parallel.log (h : Parallel host port w direct) (level : Report.Level) (text : String) :
    Parallel host port (w.log level text) (direct.log level text) :=
  h.note rfl

theorem close_parallel (h : Parallel host port w direct) (connection : κ) :
    Parallel host port (close d connection w).2 (close d connection direct).2 := by
  have closed : Parallel host port ⟨(d.close w.driver connection).2, w.journal⟩
      ⟨(d.close direct.driver connection).2, direct.journal⟩ := ⟨by rw [h.driver], h.journal⟩
  exact closed.note (show [Act.closed connection] = _ from rfl)

theorem seenAt_endingActs (request : DriverRequest) (tunnel other : Option Fault)
    (course : Course (Except Fault κ)) :
    Journal.seenAt (endingActs r request tunnel course) host port =
      endingActs (r.untunnelled host port uri) (request.dialledAt host port) other course := by
  cases course with
  | never => rfl
  | ends after result =>
    cases result with
    | ok connection => rfl
    | error fault =>
      simp only [endingActs]
      cases r.tunnelled <;> rfl

theorem seenAt_attemptActs (mode : SslMode) (a a' : Attempt κ) (course : Course (Except Fault κ)) :
    Journal.seenAt (attemptActs s r mode a course) host port =
      attemptActs s (r.untunnelled host port uri) mode a' course := by
  have warned (entries : List Report.Entry) :
      Journal.seenAt (κ := κ) (entries.map .logged) host port = entries.map .logged := by
    rw [Journal.seenAt, List.filterMap_map]
    exact congrFun (List.filterMap_eq_map (f := Act.logged)) entries
  have hidden (b : Bool) (act : Act κ) (entry : act.seenAt host port = none) :
      Journal.seenAt (if b then [act] else []) host port = [] := by
    cases b with
    | false => rfl
    | true => simp [Journal.seenAt, entry]
  have asked (request : DriverRequest) (rest : Journal κ) :
      Journal.seenAt (.attempted request :: rest) host port =
        .attempted (request.dialledAt host port) :: rest.seenAt host port := rfl
  rw [attemptActs, Journal.seenAt_append, warned, Journal.seenAt_append, hidden _ .cleared rfl, asked,
    Journal.seenAt_append, hidden _ .dropped rfl, seenAt_endingActs uri _ _ a'.tunnel]
  simp only [attemptActs, Route.untunnelled, Bool.and_false]
  rfl

/-- An attempt at the entry that fails takes what is on record there. -/
theorem took_mem_attempt (tunnelled : r.tunnelled = true) {mode : SslMode} {after : Nat} {fault : Fault}
    (failed : (attempt d s r mode w).1 = .ends after (.error fault)) :
    Act.took (d.attempt w.driver (r.request s mode)).1.tunnel ∈
      (attempt d s r mode w).2.journal := by
  rw [attempt_journal, failed]
  simp [attemptActs, endingActs, tunnelled]

/-- An attempt at the entry in which no hop fails comes to what the driver makes of it. -/
theorem attempt_untroubled (tunnelled : r.tunnelled = true) (mode : SslMode)
    (calm : (attempt d s r mode w).2.journal.Untroubled) :
    (attempt d s r mode w).1 =
      (limited r.target.timeout r.uri (d.attempt w.driver (r.request s mode)).1.course).map
        fun result => result.mapError (·.classify r.uri) := by
  have ended := attempt_course d s r mode w
  have taken := @took_mem_attempt _ _ d s r w tunnelled mode
  revert ended
  dsimp only
  cases limited r.target.timeout r.uri (d.attempt w.driver (r.request s mode)).1.course with
  | never => exact id
  | ends after result =>
    cases result with
    | ok connection => exact id
    | error fault =>
      intro ended
      have calm' (hop : Fault)
          (recorded : (d.attempt w.driver (r.request s mode)).1.tunnel = some hop) :
          hop.isTunnel = false :=
        calm hop (Journal.mem_taken (recorded ▸ taken ended))
      rw [ended, tunnelled, if_pos rfl]
      simp only [Course.map, Except.mapError]
      rw [Fault.rootCause_untroubled calm']

include blind tunnelled

theorem attempt_parallel (h : Parallel host port w direct) (mode : SslMode)
    (calm : (attempt d s r mode w).2.journal.Untroubled) :
    (attempt d s (r.untunnelled host port uri) mode direct).1 = (attempt d s r mode w).1 ∧
      Parallel host port (attempt d s r mode w).2
        (attempt d s (r.untunnelled host port uri) mode direct).2 := by
  have asked : (r.untunnelled host port uri).request s mode =
      (r.request s mode).dialledAt host port := rfl
  obtain ⟨course, state⟩ := blind w.driver (r.request s mode) host port
  have same : (attempt d s (r.untunnelled host port uri) mode direct).1 =
      (attempt d s r mode w).1 := by
    rw [attempt_direct d s rfl, attempt_untroubled s tunnelled mode calm, asked, h.driver, course]
    rfl
  refine ⟨same, ?_, ?_⟩
  · rw [attempt_driver, attempt_driver, asked, h.driver, state]
  · rw [attempt_journal, attempt_journal, Journal.seenAt_append, h.journal, same]
    congr 1
    exact (seenAt_attemptActs s uri mode _ _ _).symm

theorem probe_parallel (candidates : List SslMode) (last : Option Fault)
    (h : Parallel host port w direct)
    (calm : (probe d s r candidates last w).2.journal.Untroubled) :
    (probe d s (r.untunnelled host port uri) candidates last direct).1 =
        (probe d s r candidates last w).1 ∧
      Parallel host port (probe d s r candidates last w).2
        (probe d s (r.untunnelled host port uri) candidates last direct).2 := by
  have kept := troubled_kept d s r
  induction candidates generalizing last w direct with
  | nil => exact ⟨rfl, h⟩
  | cons mode rest ih =>
    have early : (attempt d s r mode w).2.journal.Untroubled := by
      refine Classical.byContradiction fun troubled => ?_
      exact kept.probe_cons last troubled (kept.probe rest) calm
    obtain ⟨same, tried⟩ := attempt_parallel blind s tunnelled uri h mode early
    unfold probe at calm ⊢
    cases ha : attempt d s r mode w with
    | mk course w' =>
      cases hd : attempt d s (r.untunnelled host port uri) mode direct with
      | mk course' direct' =>
        rw [ha, hd] at same tried
        rw [ha] at calm
        cases same
        cases course with
        | never => exact ⟨rfl, tried⟩
        | ends after result =>
          cases result with
          | ok connection =>
            have closed := close_parallel tried connection (d := d)
            exact ⟨rfl, (closed.note rfl).log _ _⟩
          | error fault =>
            obtain ⟨same, further⟩ := ih (some fault) ((tried.note rfl).log _ _) calm
            exact ⟨congrArg (Course.later after) same, further⟩

theorem chooseMode_parallel (h : Parallel host port w direct)
    (calm : (chooseMode d s r w).2.journal.Untroubled) :
    (chooseMode d s (r.untunnelled host port uri) direct).1 = (chooseMode d s r w).1 ∧
      Parallel host port (chooseMode d s r w).2
        (chooseMode d s (r.untunnelled host port uri) direct).2 := by
  have mode : (r.untunnelled host port uri).target.sslMode = r.target.sslMode := rfl
  have dialect : (r.untunnelled host port uri).target.dialect = r.target.dialect := rfl
  unfold chooseMode at calm ⊢
  rw [mode, dialect]
  split
  · exact ⟨rfl, h⟩
  · rename_i preferred
    rw [if_neg preferred] at calm
    split
    · rename_i tls
      rw [if_pos tls] at calm
      exact probe_parallel blind s tunnelled uri _ none h calm
    · exact ⟨rfl, h.log _ _⟩

theorem negotiate_parallel (h : Parallel host port w direct)
    (calm : (negotiate d s r w).2.journal.Untroubled) :
    (negotiate d s (r.untunnelled host port uri) direct).1 = (negotiate d s r w).1 ∧
      Parallel host port (negotiate d s r w).2
        (negotiate d s (r.untunnelled host port uri) direct).2 := by
  have early : (chooseMode d s r w).2.journal.Untroubled := by
    refine Classical.byContradiction fun troubled => ?_
    exact (troubled_kept d s r).negotiate_chosen troubled calm
  obtain ⟨same, chosen⟩ := chooseMode_parallel blind s tunnelled uri h early
  unfold negotiate at calm ⊢
  cases hc : chooseMode d s r w with
  | mk course w' =>
    cases hd : chooseMode d s (r.untunnelled host port uri) direct with
    | mk course' direct' =>
      rw [hc, hd] at same chosen
      rw [hc] at calm
      cases same
      cases course with
      | never => exact ⟨rfl, chosen⟩
      | ends after result =>
        cases result with
        | error fault => exact ⟨rfl, chosen⟩
        | ok mode =>
          obtain ⟨same, opened⟩ := attempt_parallel blind s tunnelled uri chosen mode calm
          let named : Course (Except Fault κ) → Course (Except Fault (κ × SslMode)) := fun course =>
            (course.map fun result => result.map fun connection => (connection, mode)).later after
          exact ⟨congrArg named same, opened⟩

end

theorem asked_kept (d : Driver σ κ) (s : Settings) (r : Route) :
    Kept d s r fun w => ∀ request ∈ w.journal.attempts, ∃ mode, request = r.request s mode where
  note {w acts} quiet h := by
    rw [quiet.attempts_note]
    exact h
  attempt {w} mode h := by
    obtain ⟨acts, hj, ran⟩ := attempt_ran d s r mode w
    rw [hj, Journal.attempts_append, ran.attempts]
    intro request asked
    rcases List.mem_append.mp asked with before | now
    · exact h request before
    · exact ⟨mode, List.mem_singleton.mp now⟩
  close {w} connection h := by
    change ∀ request ∈ (w.journal ++ [Act.closed connection]).attempts, _
    rw [Journal.attempts_append]
    intro request asked
    exact h request ((List.append_nil w.journal.attempts) ▸ asked)

def shown (course : Course (Except Fault (Established κ))) : Course (Except Fault (κ × SslMode)) :=
  course.map fun result => result.map fun e => (e.connection, e.sslMode)

section

variable (d : Driver σ κ) (s : Settings) {listen : Except IoFault UInt16} {options : Options}
  {resolved : Resolved} {state : σ}

theorem prepare_tunnelled (tunnel : resolved.needsTunnel = true) (port : UInt16)
    (w : World σ κ) :
    prepare (.ok port) resolved w =
      (.ok (⟨resolved.moveTo loopback port, true, resolved.sanitizedUri⟩, some port),
        w.note [.listened port]) := by
  rw [prepare, if_pos tunnel]

theorem prepare_withoutHops (listen : Except IoFault UInt16) (resolved : Resolved) (w : World σ κ) :
    prepare listen resolved.withoutHops w =
      (.ok (⟨resolved.withoutHops, false, resolved.sanitizedUri⟩, none), w) := rfl

/-- When the connection is found or was not to be had, at most the entry is left to be closed. -/
theorem connect_along {route : Route} {entry : Option UInt16} {opened : World σ κ}
    (hr : options.resolve = .ok resolved)
    (hp : prepare listen resolved ⟨state, []⟩ = (.ok (route, entry), opened)) :
    shown (connect d s listen options state).1 = (negotiate d s route opened).1 ∧
      ∃ left, (connect d s listen options state).2 = (negotiate d s route opened).2.note left ∧
        (left = [] ∨ left = [.stopped] ∧ route.tunnelled = true) := by
  unfold connect
  rw [hr]
  dsimp only
  rw [hp]
  dsimp only
  cases negotiate d s route opened with
  | mk course w =>
    cases course with
    | never => exact ⟨rfl, [], w.note_nil.symm, .inl rfl⟩
    | ends after result =>
      cases result with
      | ok found => exact ⟨rfl, [], w.note_nil.symm, .inl rfl⟩
      | error fault =>
        refine ⟨rfl, _, rfl, ?_⟩
        cases route.tunnelled with
        | false => exact .inl rfl
        | true => exact .inr ⟨rfl, rfl⟩

theorem Parallel.stopped {host : String} {port : UInt16} {w direct : World σ κ}
    (h : Parallel host port w direct) {left : Journal κ} (closed : left = [] ∨ left = [.stopped]) :
    Parallel host port (w.note left) direct := by
  refine ⟨h.driver, ?_⟩
  rw [World.note, Journal.seenAt_append, h.journal]
  rcases closed with rfl | rfl
  · exact (List.append_nil _).symm
  · exact (List.append_nil _).symm

end

/-- What two runs have in common if the driver cannot tell them apart. -/
structure Alike (run other : Course (Except Fault (Established κ)) × World σ κ) : Prop where
  /-- The driver is asked for the same, up to where to dial. -/
  requests : ∀ host port, run.2.journal.attempts.map (·.dialledAt host port) =
    other.2.journal.attempts.map (·.dialledAt host port)
  closings : run.2.journal.closings = other.2.journal.closings
  driver : run.2.driver = other.2.driver
  outcome : shown run.1 = shown other.1

theorem Parallel.alike {host : String} {port : UInt16}
    {run direct : Course (Except Fault (Established κ)) × World σ κ}
    (h : Parallel host port run.2 direct.2) (outcome : shown direct.1 = shown run.1) :
    Alike run direct where
  requests host' port' := by
    rw [h.journal, Journal.attempts_seenAt, List.map_map]
    rfl
  closings := by rw [h.journal, Journal.closings_seenAt]
  driver := h.driver.symm
  outcome := outcome.symm

section

variable (d : Driver σ κ) (s : Settings) {options : Options} {resolved : Resolved} {state : σ}

theorem connect_asked {listen : Except IoFault UInt16} {route : Route} {entry : Option UInt16}
    {opened : World σ κ} (hr : options.resolve = .ok resolved)
    (hp : prepare listen resolved ⟨state, []⟩ = (.ok (route, entry), opened))
    (unasked : opened.journal.attempts = []) :
    ∀ request ∈ (connect d s listen options state).2.journal.attempts,
      ∃ mode, request = route.request s mode := by
  have kept := asked_kept d s route
  obtain ⟨-, left, ended, closed⟩ := connect_along d s hr hp
  rw [ended]
  refine kept.note ?_ (kept.negotiate ?_)
  · rcases closed with rfl | ⟨rfl, -⟩ <;> exact ⟨rfl, rfl⟩
  · rw [unasked]
    intro request asked
    cases asked

/-- A request that is in order, with hops on the way and without them. -/
theorem connect_alike {d : Driver σ κ} (blind : d.Blind) (hr : options.resolve = .ok resolved)
    (tunnel : resolved.needsTunnel = true)
    (direct : options.withoutHops.resolve = .ok resolved.withoutHops)
    {port : UInt16} (listen : Except IoFault UInt16)
    (calm : (connect d s (.ok port) options state).2.journal.Untroubled) :
    Alike (connect d s (.ok port) options state) (connect d s listen options.withoutHops state) := by
  let r : Route := ⟨resolved.moveTo loopback port, true, resolved.sanitizedUri⟩
  obtain ⟨outcome, left, ended, closed⟩ := connect_along d s hr
    (prepare_tunnelled tunnel port _)
  obtain ⟨outcome', left', ended', closed'⟩ := connect_along d s direct
    (prepare_withoutHops listen resolved _)
  rw [ended] at calm
  have opened : Parallel resolved.host resolved.port
      (⟨state, [.listened port]⟩ : World σ κ) ⟨state, []⟩ := ⟨rfl, rfl⟩
  obtain ⟨same, negotiated⟩ := negotiate_parallel blind s (r := r) rfl resolved.uri opened
    calm.of_append
  rcases closed' with rfl | ⟨-, tunnelled⟩
  · have parallel : Parallel resolved.host resolved.port (connect d s (.ok port) options state).2
        (connect d s listen options.withoutHops state).2 := by
      rw [ended, ended', World.note_nil]
      exact negotiated.stopped (closed.imp_right And.left)
    refine parallel.alike ?_
    rw [outcome, outcome']
    exact same
  · cases tunnelled

end

/-- A driver that does not look at where it dials cannot tell a request with hops from the same request
without them, as long as no hop fails: it is asked for the same connections, gets the same of them back,
and comes to the same end. With hops all it is asked for is to be dialled at the entry, without them at the
database itself; the name of the server is the database's own either way. -/
theorem connect_withoutHops (d : Driver σ κ) (s : Settings) (options : Options) (port : UInt16)
    (listen : Except IoFault UInt16) (state : σ) (blind : d.Blind)
    (hops : options.proxy.isSome ∨ options.ssh.isSome) (order : options.HopsInOrder)
    (calm : (connect d s (.ok port) options state).2.journal.Untroubled) :
    let run := connect d s (.ok port) options state
    let direct := connect d s listen options.withoutHops state
    Alike run direct ∧
      (∀ request ∈ run.2.journal.attempts, request.host = "127.0.0.1" ∧ request.port = port) ∧
      ∀ resolved, options.resolve = .ok resolved →
        (∀ request ∈ run.2.journal.attempts, request.serverName = resolved.host) ∧
        ∀ request ∈ direct.2.journal.attempts, request.host = resolved.host ∧
          request.port = resolved.port ∧ request.serverName = resolved.host := by
  intro run direct
  have resolve' := Options.resolve_withoutHops order
  cases hr : options.resolve with
  | error fault =>
    rw [hr] at resolve'
    have failed : run = (.ends 0 (.error fault), ⟨state, []⟩) := by
      simp only [run, connect, hr]
    have failed' : direct = (.ends 0 (.error fault), ⟨state, []⟩) := by
      simp only [direct, connect, resolve']
      rfl
    rw [failed, failed']
    refine ⟨⟨fun _ _ => rfl, rfl, rfl, rfl⟩, ?_, fun _ unresolved => by cases unresolved⟩
    intro request asked
    cases asked
  | ok resolved =>
    rw [hr] at resolve'
    obtain ⟨fields, uri, h⟩ := Options.resolve_eq_ok_iff.mp hr
    have server : resolved.serverName = resolved.host := by
      rw [h.kept]
    have tunnel : resolved.needsTunnel = true := by
      rw [h.needsTunnel]
      simpa using hops
    have asked := connect_asked d s hr (prepare_tunnelled tunnel port ⟨state, []⟩) rfl
    have asked' := connect_asked d s resolve' (prepare_withoutHops listen resolved ⟨state, []⟩)
      rfl
    refine ⟨connect_alike s blind hr tunnel resolve' listen calm, ?_, ?_⟩
    · intro request hm
      obtain ⟨mode, rfl⟩ := asked request hm
      exact ⟨rfl, rfl⟩
    · intro same again
      cases again
      refine ⟨?_, ?_⟩
      · intro request hm
        obtain ⟨mode, rfl⟩ := asked request hm
        exact server
      · intro request hm
        obtain ⟨mode, rfl⟩ := asked' request hm
        exact ⟨rfl, rfl, server⟩

/-- A request for a database behind a proxy. -/
def behindProxy (port : UInt16) : Options :=
  { asking .postgres none with proxy := some { host := "proxy.internal", port } }

theorem Driver.accepting_blind (modes : List SslMode) : (Driver.accepting modes).Blind :=
  fun _ _ _ _ => ⟨rfl, rfl⟩

/-- Three attempts behind a proxy, the last two of them with a connection. -/
theorem connect_withoutHops_proxied :
    let run := connect (.accepting [.required]) {} (.ok 40000) (behindProxy 1080) 0
    let direct := connect (.accepting [.required]) {} (.error .unreachable)
      (behindProxy 1080).withoutHops 0
    (Driver.accepting [.required]).Blind ∧ (behindProxy 1080).proxy.isSome ∧
      (behindProxy 1080).HopsInOrder ∧ run.2.journal.Untroubled ∧
      run.2.journal.attempts.length = 3 ∧ run.2.journal.closings = [1] ∧ Alike run direct ∧
      (∀ request ∈ run.2.journal.attempts, request.host = "127.0.0.1" ∧ request.port = 40000 ∧
        request.serverName = "db.internal") ∧
      ∀ request ∈ direct.2.journal.attempts, request.host = "db.internal" ∧
        request.port = 5000 := by
  intro run direct
  have blind := Driver.accepting_blind [.required]
  have order : (behindProxy 1080).HopsInOrder := ⟨rfl, rfl⟩
  have calm : run.2.journal.Untroubled := by
    have none : run.2.journal.taken = [] := rfl
    intro fault taken
    rw [none] at taken
    cases taken
  obtain ⟨alike, entered, named⟩ := connect_withoutHops (.accepting [.required]) {}
    (behindProxy 1080) 40000 (.error .unreachable) 0 blind (.inl rfl) order calm
  obtain ⟨server, dialled⟩ := named _ rfl
  refine ⟨blind, rfl, order, calm, rfl, rfl, alike, fun request asked => ?_, fun request asked => ?_⟩
  · exact ⟨(entered request asked).1, (entered request asked).2, server request asked⟩
  · exact ⟨(dialled request asked).1, (dialled request asked).2.1⟩

/-- A proxy without a port, or an entry that cannot be opened, keeps a request from the driver that would
have been made without the proxy. -/
theorem refused_before_driver :
    let listening := connect (.accepting [.required]) {} (.ok 40000) (behindProxy 0) 0
    let unopened := connect (.accepting [.required]) {} (.error .unreachable) (behindProxy 1080) 0
    let direct := connect (.accepting [.required]) {} (.error .unreachable)
      (asking .postgres none) 0
    (Driver.accepting [.required]).Blind ∧ (behindProxy 0).withoutHops = asking .postgres none ∧
      (behindProxy 1080).withoutHops = asking .postgres none ∧
      listening.2.journal.Untroubled ∧ ¬ Alike listening direct ∧
      unopened.2.journal.Untroubled ∧ ¬ Alike unopened direct := by
  intro listening unopened direct
  have asked (run : Course (Except Fault (Established Nat)) × World Nat Nat)
      (idle : run.2.journal.attempts = []) : ¬ Alike run direct := by
    intro alike
    have same := congrArg List.length (alike.requests "" 0)
    rw [idle, List.length_map] at same
    have thrice : direct.2.journal.attempts.length = 3 := rfl
    cases same.trans thrice
  refine ⟨Driver.accepting_blind _, rfl, rfl, fun _ taken => ?_, asked _ rfl, fun _ taken => ?_,
    asked _ rfl⟩
  · cases taken
  · cases taken

end Negotiation
end Passage
