import Passage.Hop.Chain

namespace Passage

/-- What the work of a hop comes to, given how it was set to work. -/
abbrev Conduct (ρ : Type) := Call ρ → Except Fault ρ

def ChainHop.fixed (h : ChainHop) : Endpoint × Fault :=
  (h.endpoint, h.onStop)

namespace Chain

variable {ρ : Type}

/-- The chain `d` comes from `c`: its route is the same, and whoever was set to work since was asked for what
comes next. -/
structure Follows (c d : Chain ρ) : Prop where
  target : d.target = c.target
  hops : d.hops.map ChainHop.fixed = c.hops.map ChainHop.fixed
  calls : ∃ more, d.calls = c.calls ++ more ∧ ∀ call ∈ more, call.next = c.next call.hop

namespace Follows

variable {c d e : Chain ρ}

theorem length_eq (h : c.Follows d) : d.hops.length = c.hops.length := by
  simpa using congrArg List.length h.hops

theorem hop (h : c.Follows d) {i : Nat} {found : ChainHop} (at_i : d.hops[i]? = some found) :
    ∃ before, c.hops[i]? = some before ∧ found.endpoint = before.endpoint ∧
      found.onStop = before.onStop := by
  have same := congrArg (·[i]?) h.hops
  simp only [List.getElem?_map, at_i, Option.map_some] at same
  obtain ⟨before, at_c, fixed⟩ := Option.map_eq_some_iff.mp same.symm
  obtain ⟨endpoint, onStop⟩ := Prod.mk.inj fixed
  exact ⟨before, at_c, endpoint.symm, onStop.symm⟩

theorem next_eq (h : c.Follows d) (i : Nat) : d.next i = c.next i := by
  unfold next
  cases at_d : d.hops[i + 1]? with
  | none =>
    rw [List.getElem?_eq_none_iff, h.length_eq, ← List.getElem?_eq_none_iff] at at_d
    rw [at_d, h.target]
  | some following =>
    obtain ⟨before, at_c, endpoint, -⟩ := h.hop at_d
    rw [at_c]
    exact endpoint

theorem of_same (target : d.target = c.target)
    (hops : d.hops.map ChainHop.fixed = c.hops.map ChainHop.fixed) (calls : d.calls = c.calls) :
    c.Follows d :=
  ⟨target, hops, [], by rw [calls, List.append_nil], List.forall_mem_nil _⟩

theorem refl (c : Chain ρ) : c.Follows c :=
  of_same rfl rfl rfl

theorem trans (hd : c.Follows d) (he : d.Follows e) : c.Follows e where
  target := he.target.trans hd.target
  hops := he.hops.trans hd.hops
  calls := by
    obtain ⟨more, called, asked⟩ := hd.calls
    obtain ⟨more', called', asked'⟩ := he.calls
    refine ⟨more ++ more', by rw [called', called, List.append_assoc], ?_⟩
    intro call hm
    rcases List.mem_append.mp hm with hm | hm
    · exact asked call hm
    · exact (asked' call hm).trans (hd.next_eq _)

end Follows

def atWork? (c : Chain ρ) : Option (Call ρ) :=
  match c.progress with
  | .idle => none
  | .dialling => some ⟨0, none, c.next 0⟩
  | .talking hop inbound => some ⟨hop, inbound, c.next hop⟩

theorem atWork?_dialling {c : Chain ρ} (dialling : c.progress = .dialling) :
    c.atWork? = some ⟨0, none, c.next 0⟩ := by
  simp only [atWork?, dialling]

theorem atWork?_talking {c : Chain ρ} {hop : Nat} {inbound : Option ρ}
    (talking : c.progress = .talking hop inbound) : c.atWork? = some ⟨hop, inbound, c.next hop⟩ := by
  simp only [atWork?, talking]

/-- The chain `d` is `c` but for the sockets and for what the hops keep. -/
structure Beside (c d : Chain ρ) : Prop where
  follows : c.Follows d
  calls : d.calls = c.calls
  outcome : d.outcome = c.outcome
  at_work : d.atWork? = c.atWork?

theorem Beside.of_same {c d : Chain ρ} (target : d.target = c.target)
    (hops : d.hops.map ChainHop.fixed = c.hops.map ChainHop.fixed) (calls : d.calls = c.calls)
    (outcome : d.outcome = c.outcome) (progress : d.progress = c.progress) : c.Beside d where
  follows := .of_same target hops calls
  calls := calls
  outcome := outcome
  at_work := by
    unfold atWork?
    rw [progress]
    split <;> simp [(Follows.of_same target hops calls).next_eq]

/-- Whether a hop of the chain has been told to stop. -/
def Barred (c : Chain ρ) (hop : Nat) : Prop :=
  ∃ h, c.hops[hop]? = some h ∧ h.state.stopped = true

theorem map_fixed_set {hops : List ChainHop} {i : Nat} {h : ChainHop} (found : hops[i]? = some h)
    (state : HopState) :
    (hops.set i { h with state }).map ChainHop.fixed = hops.map ChainHop.fixed := by
  obtain ⟨inside, rfl⟩ := List.getElem?_eq_some_iff.mp found
  rw [List.map_set]
  apply List.ext_getElem?
  intro j
  by_cases same : i = j
  · subst same
    simp [ChainHop.fixed, inside]
  · rw [List.getElem?_set_ne same]

theorem map_fixed_modify (hops : List ChainHop) (i : Nat) :
    (hops.modify i fun h => { h with state := h.state.stop }).map ChainHop.fixed =
      hops.map ChainHop.fixed := by
  apply List.ext_getElem?
  intro j
  rw [List.getElem?_map, List.getElem?_map, List.getElem?_modify]
  by_cases same : i = j <;> cases hops[j]? <;> simp [same, ChainHop.fixed]

theorem barred_set {c : Chain ρ} {hop i : Nat} {h : ChainHop} (found : c.hops[hop]? = some h)
    {state : HopState} (kept : state.stopped = h.state.stopped)
    (barred : { c with hops := c.hops.set hop { h with state } }.Barred i) : c.Barred i := by
  obtain ⟨g, at_i, stopped⟩ := barred
  by_cases same : hop = i
  · subst same
    obtain ⟨inside, -⟩ := List.getElem?_eq_some_iff.mp found
    rw [List.getElem?_set_self inside, Option.some.injEq] at at_i
    subst at_i
    exact ⟨h, found, kept ▸ stopped⟩
  · rw [List.getElem?_set_ne same] at at_i
    exact ⟨g, at_i, stopped⟩

theorem barred_modify {c : Chain ρ} {hop i : Nat}
    (barred : { c with hops := c.hops.modify hop fun h => { h with state := h.state.stop } }.Barred i) :
    c.Barred i ∨ i = hop := by
  obtain ⟨g, at_i, stopped⟩ := barred
  by_cases same : hop = i
  · exact .inr same.symm
  · rw [List.getElem?_modify] at at_i
    simp only [same, if_false, Option.map_eq_map, Option.map_id'] at at_i
    exact .inl ⟨g, at_i, stopped⟩

theorem settle_stopped (s : HopState) (outcome : Except Fault ρ) :
    (s.settle outcome).stopped = s.stopped := by
  cases outcome <;> rfl

theorem follows_fail (c : Chain ρ) (fault : Fault) : c.Follows (c.fail fault) :=
  .of_same rfl rfl rfl

theorem follows_enter (c : Chain ρ) (hop : Nat) (inbound : Option ρ) :
    c.Follows (c.enter hop inbound) := by
  unfold enter
  split
  · exact .of_same rfl rfl rfl
  · exact follows_fail c _
  · split
    · split <;> exact .of_same rfl rfl rfl
    · refine ⟨rfl, rfl, _, rfl, ?_⟩
      intro call hm
      rw [List.mem_singleton.mp hm]

theorem enter_hops (c : Chain ρ) (hop : Nat) (inbound : Option ρ) : (c.enter hop inbound).hops = c.hops := by
  unfold enter
  split
  · rfl
  · rfl
  · split
    · split <;> rfl
    · rfl

/-- A look finds the hop stopped, or still at work, or at its end. -/
theorem look_cases (c : Chain ρ) {hop : Nat} {h : ChainHop} (found : c.hops[hop]? = some h) (held : Bool)
    (progress : Option (Except Fault ρ)) :
    ∃ d : Chain ρ, c.Beside d ∧ (∀ i, d.Barred i → c.Barred i) ∧
      (h.state.stopped = true ∧ c.look hop held progress = d.fail h.onStop ∨
        progress = none ∧ c.look hop held progress = d ∨
        (∃ stream, progress = some (.ok stream) ∧
          c.look hop held progress = d.enter (hop + 1) (some stream)) ∨
        ∃ fault, progress = some (.error fault) ∧ c.look hop held progress = d.fail fault) := by
  have noted (state : HopState) (kept : state.stopped = h.state.stopped) (sockets : Nat) :
      c.Beside { c with hops := c.hops.set hop { h with state }, sockets } ∧
        ∀ i, { c with hops := c.hops.set hop { h with state }, sockets }.Barred i → c.Barred i :=
    ⟨.of_same rfl (map_fixed_set found state) rfl rfl rfl, fun _ barred => barred_set found kept barred⟩
  have ends (d : Chain ρ) (fault : Fault) :
      (if held then d.closeSocket.fail fault else d.fail fault) =
        { d with sockets := if held then d.sockets - 1 else d.sockets }.fail fault := by
    cases held <;> rfl
  unfold look HopState.poll
  simp only [found]
  cases stopped : h.state.stopped with
  | true =>
    obtain ⟨beside, barred⟩ := noted h.state rfl (if held then c.sockets - 1 else c.sockets)
    exact ⟨_, beside, barred, .inl ⟨rfl, ends _ _⟩⟩
  | false =>
    match progress with
    | none =>
      obtain ⟨beside, barred⟩ := noted h.state rfl c.sockets
      exact ⟨_, beside, barred, .inr (.inl ⟨rfl, rfl⟩)⟩
    | some (.ok stream) =>
      obtain ⟨beside, barred⟩ := noted h.state rfl c.sockets
      exact ⟨_, beside, barred, .inr (.inr (.inl ⟨stream, rfl, rfl⟩))⟩
    | some (.error fault) =>
      obtain ⟨beside, barred⟩ := noted (h.state.settle (.error fault : Except Fault ρ))
        (settle_stopped _ _) (if held then c.sockets - 1 else c.sockets)
      exact ⟨_, beside, barred, .inr (.inr (.inr ⟨fault, rfl, ends _ _⟩))⟩

/-- A hop told to stop is looked at if it is at work. -/
theorem halt_cases (c : Chain ρ) (hop : Nat) :
    ∃ d : Chain ρ, c.Beside d ∧ (∀ i, d.Barred i → c.Barred i ∨ i = hop) ∧
      (c.halt hop = d ∨ ∃ call held, d.atWork? = some call ∧ c.halt hop = d.look call.hop held none) := by
  refine ⟨{ c with hops := c.hops.modify hop fun h => { h with state := h.state.stop } },
    .of_same rfl (map_fixed_modify c.hops hop) rfl rfl rfl, fun _ => barred_modify, ?_⟩
  unfold halt
  cases at_work : c.progress with
  | idle => exact .inl rfl
  | dialling =>
    dsimp only
    split
    · exact .inr ⟨⟨0, none, _⟩, false, by simp [atWork?]; rfl, rfl⟩
    · exact .inl rfl
  | talking working inbound =>
    dsimp only
    split
    · exact .inr ⟨⟨working, inbound, _⟩, true, by simp [atWork?]; rfl, rfl⟩
    · exact .inl rfl

theorem follows_look (c : Chain ρ) (hop : Nat) (held : Bool) (progress : Option (Except Fault ρ)) :
    c.Follows (c.look hop held progress) := by
  cases found : c.hops[hop]? with
  | none =>
    unfold look
    rw [found]
    exact .refl c
  | some h =>
    obtain ⟨d, beside, -, ⟨-, e⟩ | ⟨-, e⟩ | ⟨stream, -, e⟩ | ⟨fault, -, e⟩⟩ :=
      look_cases c found held progress
    · exact e ▸ beside.follows.trans (follows_fail d _)
    · exact e ▸ beside.follows
    · exact e ▸ beside.follows.trans (follows_enter d _ _)
    · exact e ▸ beside.follows.trans (follows_fail d _)

theorem follows_halt (c : Chain ρ) (hop : Nat) : c.Follows (c.halt hop) := by
  obtain ⟨d, beside, -, e | ⟨call, held, -, e⟩⟩ := halt_cases c hop
  · exact e ▸ beside.follows
  · exact e ▸ beside.follows.trans (follows_look d _ _ _)

theorem follows_foldl_halt (hops : List Nat) (c : Chain ρ) : c.Follows (hops.foldl halt c) := by
  induction hops generalizing c with
  | nil => exact .refl c
  | cons hop rest ih => exact (follows_halt c hop).trans (ih _)

theorem follows_step (c : Chain ρ) (event : ChainEvent ρ) : c.Follows (c.step event) := by
  have same {d : Chain ρ} (target : d.target = c.target) (hops : d.hops = c.hops)
      (calls : d.calls = c.calls) : c.Follows d :=
    .of_same target (by rw [hops]) calls
  cases event with
  | connect =>
    simp only [step]
    split
    · exact (same (d := { c with outcome := none }) rfl rfl rfl).trans (follows_enter _ _ _)
    · exact .refl c
  | dialled result =>
    simp only [step]
    split
    · exact same rfl rfl rfl
    · exact follows_look _ _ _ _
    · exact .refl c
  | answered result =>
    simp only [step]
    split
    · exact follows_look _ _ _ _
    · exact .refl c
  | halt hop => exact follows_halt c hop
  | stop => exact follows_foldl_halt _ c
  | drop =>
    simp only [step]
    split
    · exact same rfl rfl rfl
    · exact .refl c

theorem follows_run (c : Chain ρ) (history : List (ChainEvent ρ)) : c.Follows (c.run history) := by
  induction history generalizing c with
  | nil => exact .refl c
  | cons event rest ih => exact (follows_step c event).trans (ih _)

/-- The hops that were stopped before, or that the history tells to stop. -/
def Told (c : Chain ρ) (history : List (ChainEvent ρ)) (hop : Nat) : Prop :=
  c.Barred hop ∨ .stop ∈ history ∨ .halt hop ∈ history

/-- The event tells no hop to stop but those. -/
def Tells (told : Nat → Prop) : ChainEvent ρ → Prop
  | .stop => ∀ hop, told hop
  | .halt hop => told hop
  | _ => True

theorem tells_of_mem {c : Chain ρ} {history : List (ChainEvent ρ)} :
    ∀ event ∈ history, Tells (c.Told history) event := by
  intro event member
  cases event with
  | stop => exact fun _ => .inr (.inl member)
  | halt hop => exact .inr (.inr member)
  | _ => trivial

/-- The event is no other connect, and tells of the hop at work what its conduct is. -/
def Fits (conduct : Conduct ρ) (c : Chain ρ) (event : ChainEvent ρ) : Prop :=
  match event, c.progress with
  | .connect, .idle => False
  | .dialled (.error fault), .dialling => conduct ⟨0, none, c.next 0⟩ = .error fault
  | .answered result, .talking hop inbound => conduct ⟨hop, inbound, c.next hop⟩ = result
  | _, _ => True

/-- A history of one connect, in which the hops behave as their conduct is. Stops and closings may come at any
moment, and so may events that do not fit and change nothing. -/
def Behaved (conduct : Conduct ρ) : Chain ρ → List (ChainEvent ρ) → Prop
  | _, [] => True
  | c, event :: rest => c.Fits conduct event ∧ Behaved conduct (c.step event) rest

/-- The servers on the way, the target last. -/
def stations (c : Chain ρ) : List Endpoint :=
  c.hops.map ChainHop.endpoint ++ [c.target]

theorem stations_next {c : Chain ρ} {hop : Nat} (inside : hop < c.hops.length) :
    c.stations[hop + 1]? = some (c.next hop) := by
  unfold stations next
  cases found : c.hops[hop + 1]? with
  | some following =>
    obtain ⟨inside', -⟩ := List.getElem?_eq_some_iff.mp found
    rw [List.getElem?_append_left (by simpa using inside'), List.getElem?_map, found]
    rfl
  | none =>
    have last : hop + 1 = (c.hops.map ChainHop.endpoint).length := by
      rw [List.getElem?_eq_none_iff] at found
      rw [List.length_map]
      omega
    rw [last, List.getElem?_concat_length]

/-- What is handed on by hops that were set to work one after another: nothing at first, and then the stream
that the last of them came to. -/
def Given (conduct : Conduct ρ) (calls : List (Call ρ)) (inbound : Option ρ) : Prop :=
  match calls.getLast? with
  | none => inbound = none
  | some last => ∃ stream, conduct last = .ok stream ∧ inbound = some stream

theorem given_none {conduct : Conduct ρ} {calls : List (Call ρ)} (given : Given conduct calls none) :
    calls = [] := by
  unfold Given at given
  split at given
  · exact List.getLast?_eq_none_iff.mp ‹_›
  · obtain ⟨_, _, absurd⟩ := given
    cases absurd

/-- The hops of a chain were set to work in order from the first, each on the stream of the one before it and
each for the server behind it. -/
structure Threaded (conduct : Conduct ρ) (c : Chain ρ) (calls : List (Call ρ)) : Prop where
  within : calls.length ≤ c.hops.length
  hop : ∀ (i : Nat) (call : Call ρ), calls[i]? = some call → call.hop = i
  next : ∀ (i : Nat) (call : Call ρ), calls[i]? = some call → c.stations[i + 1]? = some call.next
  first : ∀ call : Call ρ, calls[0]? = some call → call.inbound = none
  later : ∀ (i : Nat) (call following : Call ρ), calls[i]? = some call →
    calls[i + 1]? = some following → ∃ stream, conduct call = .ok stream ∧ following.inbound = some stream

theorem getElem?_concat_cases {calls : List (Call ρ)} {added call : Call ρ} {i : Nat}
    (found : (calls ++ [added])[i]? = some call) :
    calls[i]? = some call ∨ i = calls.length ∧ call = added := by
  rw [List.getElem?_append] at found
  split at found
  · exact .inl found
  · right
    rw [List.getElem?_singleton] at found
    split at found
    · exact ⟨by omega, (Option.some.inj found).symm⟩
    · cases found

namespace Threaded

variable {conduct : Conduct ρ} {c : Chain ρ} {calls : List (Call ρ)}

theorem nil (conduct : Conduct ρ) (c : Chain ρ) : Threaded conduct c [] where
  within := Nat.zero_le _
  hop _ _ found := nomatch found
  next _ _ found := nomatch found
  first _ found := nomatch found
  later _ _ _ found := nomatch found

theorem snoc (h : Threaded conduct c calls) {inbound : Option ρ} (given : Given conduct calls inbound)
    (more : calls.length < c.hops.length) :
    Threaded conduct c (calls ++ [⟨calls.length, inbound, c.next calls.length⟩]) := by
  refine ⟨by rw [List.length_append]; exact more, ?_, ?_, ?_, ?_⟩
  · intro i call found
    rcases getElem?_concat_cases found with found | ⟨rfl, rfl⟩
    · exact h.hop i call found
    · rfl
  · intro i call found
    rcases getElem?_concat_cases found with found | ⟨rfl, rfl⟩
    · exact h.next i call found
    · exact stations_next more
  · intro call found
    rcases getElem?_concat_cases found with found | ⟨empty, rfl⟩
    · exact h.first call found
    · obtain rfl : calls = [] := List.length_eq_zero_iff.mp empty.symm
      exact given
  · intro i call following found found'
    rcases getElem?_concat_cases found with found | ⟨rfl, rfl⟩
    · rcases getElem?_concat_cases found' with found' | ⟨last, rfl⟩
      · exact h.later i call following found found'
      · have at_last : calls.getLast? = some call := by
          rw [List.getLast?_eq_getElem?, ← last]
          exact found
        unfold Given at given
        rw [at_last] at given
        exact given
    · rcases getElem?_concat_cases found' with found' | ⟨absurd, -⟩
      · rw [List.getElem?_eq_none (Nat.le_succ _)] at found'
        cases found'
      · omega

theorem last_hop (h : Threaded conduct c calls) {last : Call ρ} (at_last : calls.getLast? = some last) :
    last.hop + 1 = calls.length := by
  rw [List.getLast?_eq_getElem?] at at_last
  have hop := h.hop _ last at_last
  obtain ⟨inside, -⟩ := List.getElem?_eq_some_iff.mp at_last
  omega

end Threaded

/-- How a connect can have ended that set these hops to work, if those were told to stop. -/
inductive Ended (conduct : Conduct ρ) (c : Chain ρ) (told : Nat → Prop) (calls : List (Call ρ)) :
    Except Fault ρ → Prop where
  | noHops (empty : c.hops = []) (uncalled : calls = []) :
      Ended conduct c told calls (.error (.configuration .noHops))
  | through {last : Call ρ} {stream : ρ} (all : calls.length = c.hops.length)
      (at_last : calls.getLast? = some last) (came : conduct last = .ok stream) :
      Ended conduct c told calls (.ok stream)
  | failed {last : Call ρ} {fault : Fault} (at_last : calls.getLast? = some last)
      (failed : conduct last = .error fault) : Ended conduct c told calls (.error fault)
  | halted {last : Call ρ} {h : ChainHop} (at_last : calls.getLast? = some last)
      (found : c.hops[last.hop]? = some h) (stopped : told last.hop) :
      Ended conduct c told calls (.error h.onStop)
  | barred {h : ChainHop} {inbound : Option ρ} (given : Given conduct calls inbound)
      (found : c.hops[calls.length]? = some h) (stopped : told calls.length) :
      Ended conduct c told calls (.error h.onStop)

/-- Where a connect stands: a hop is at work, the last that was set to work, or it has ended. -/
inductive Stands (conduct : Conduct ρ) (c : Chain ρ) (told : Nat → Prop) (calls : List (Call ρ))
    (d : Chain ρ) : Prop where
  | working {call : Call ρ} (outcome : d.outcome = none) (at_work : d.atWork? = some call)
      (at_last : calls.getLast? = some call)
  | over {result : Except Fault ρ} (outcome : d.outcome = some result) (idle : d.atWork? = none)
      (ended : Ended conduct c told calls result)

/-- What is known of a chain on its way, from the connect on that found it as `c`. -/
structure Threading (conduct : Conduct ρ) (c : Chain ρ) (told : Nat → Prop) (d : Chain ρ) : Prop where
  follows : c.Follows d
  barred : ∀ hop, d.Barred hop → told hop
  stands : ∃ calls, d.calls = c.calls ++ calls ∧ Threaded conduct c calls ∧ Stands conduct c told calls d

section

variable {conduct : Conduct ρ} {told : Nat → Prop} {c d : Chain ρ}

theorem enter_threading {calls : List (Call ρ)} {inbound : Option ρ} (follows : c.Follows d)
    (barred : ∀ hop, d.Barred hop → told hop) (outcome : d.outcome = none)
    (called : d.calls = c.calls ++ calls) (threaded : Threaded conduct c calls)
    (given : Given conduct calls inbound) : Threading conduct c told (d.enter calls.length inbound) := by
  refine ⟨follows.trans (follows_enter _ _ _), fun hop h => barred hop ?_, ?_⟩
  · unfold Barred at h
    rwa [enter_hops] at h
  unfold enter
  cases found : d.hops[calls.length]? with
  | none =>
    have all : calls.length = c.hops.length :=
      Nat.le_antisymm threaded.within (follows.length_eq ▸ List.getElem?_eq_none_iff.mp found)
    cases at_last : calls.getLast? with
    | none =>
      obtain rfl : calls = [] := List.getLast?_eq_none_iff.mp at_last
      obtain rfl : inbound = none := given
      exact ⟨[], called, threaded, .over rfl rfl (.noHops (List.length_eq_zero_iff.mp all.symm) rfl)⟩
    | some last =>
      unfold Given at given
      rw [at_last] at given
      obtain ⟨stream, came, rfl⟩ := given
      exact ⟨calls, called, threaded, .over rfl rfl (.through all at_last came)⟩
  | some h =>
    dsimp only
    cases stopped : h.state.stopped with
    | true =>
      obtain ⟨before, at_c, -, onStop⟩ := follows.hop found
      have ended : Ended conduct c told calls (.error h.onStop) := by
        rw [onStop]
        exact .barred given at_c (barred _ ⟨h, found, stopped⟩)
      simp only [if_true]
      split <;> exact ⟨calls, called, threaded, .over rfl rfl ended⟩
    | false =>
      obtain ⟨inside, -⟩ := List.getElem?_eq_some_iff.mp found
      have next := threaded.snoc given (follows.length_eq ▸ inside)
      rw [← follows.next_eq] at next
      refine ⟨_, ?_, next, .working outcome ?_ List.getLast?_concat⟩
      · simp [called]
      · cases inbound with
        | some stream => rfl
        | none =>
          obtain rfl := given_none given
          rfl

namespace Threading

theorem beside {d' : Chain ρ} (h : Threading conduct c told d) (beside : d.Beside d')
    (barred : ∀ hop, d'.Barred hop → told hop) : Threading conduct c told d' := by
  refine ⟨h.follows.trans beside.follows, barred, ?_⟩
  obtain ⟨calls, called, threaded, stands⟩ := h.stands
  refine ⟨calls, beside.calls.trans called, threaded, ?_⟩
  rcases stands with ⟨outcome, at_work, at_last⟩ | ⟨outcome, idle, ended⟩
  · exact .working (beside.outcome.trans outcome) (beside.at_work.trans at_work) at_last
  · exact .over (beside.outcome.trans outcome) (beside.at_work.trans idle) ended

theorem working {call : Call ρ} (h : Threading conduct c told d) (at_work : d.atWork? = some call) :
    d.outcome = none ∧ ∃ calls, d.calls = c.calls ++ calls ∧ Threaded conduct c calls ∧
      calls.getLast? = some call := by
  obtain ⟨calls, called, threaded, stands⟩ := h.stands
  rcases stands with ⟨outcome, at_work', at_last⟩ | ⟨-, idle, -⟩
  · obtain rfl := Option.some.inj (at_work.symm.trans at_work')
    exact ⟨outcome, calls, called, threaded, at_last⟩
  · cases at_work.symm.trans idle

theorem fail {calls : List (Call ρ)} {fault : Fault} (follows : c.Follows d)
    (barred : ∀ hop, d.Barred hop → told hop) (called : d.calls = c.calls ++ calls)
    (threaded : Threaded conduct c calls) (ended : Ended conduct c told calls (.error fault)) :
    Threading conduct c told (d.fail fault) where
  follows := follows.trans (follows_fail d fault)
  barred := barred
  stands := ⟨calls, called, threaded, .over rfl rfl ended⟩

theorem look {call : Call ρ} (h : Threading conduct c told d) (at_work : d.atWork? = some call)
    (held : Bool) {progress : Option (Except Fault ρ)} (came : ∀ result ∈ progress, conduct call = result) :
    Threading conduct c told (d.look call.hop held progress) := by
  obtain ⟨outcome, calls, called, threaded, at_last⟩ := h.working at_work
  cases found : d.hops[call.hop]? with
  | none =>
    unfold Chain.look
    rw [found]
    exact h
  | some g =>
    obtain ⟨before, at_c, -, onStop⟩ := h.follows.hop found
    obtain ⟨d', beside, barred, shape⟩ := look_cases d found held progress
    have follows := h.follows.trans beside.follows
    have barred' := fun hop looked => h.barred hop (barred hop looked)
    rcases shape with ⟨stopped, e⟩ | ⟨-, e⟩ | ⟨stream, rfl, e⟩ | ⟨fault, rfl, e⟩
    · rw [e, onStop]
      exact fail follows barred' (beside.calls.trans called) threaded
        (.halted at_last at_c (h.barred _ ⟨g, found, stopped⟩))
    · rw [e]
      exact h.beside beside barred'
    · rw [e, threaded.last_hop at_last]
      refine enter_threading follows barred' (beside.outcome.trans outcome) (beside.calls.trans called)
        threaded ?_
      unfold Given
      rw [at_last]
      exact ⟨stream, came _ rfl, rfl⟩
    · rw [e]
      exact fail follows barred' (beside.calls.trans called) threaded (.failed at_last (came _ rfl))

theorem halt (h : Threading conduct c told d) {hop : Nat} (stopped : told hop) :
    Threading conduct c told (d.halt hop) := by
  obtain ⟨d', beside, barred, e⟩ := halt_cases d hop
  have aside : Threading conduct c told d' := by
    apply h.beside beside
    intro i at_i
    rcases barred i at_i with before | rfl
    · exact h.barred i before
    · exact stopped
  rcases e with e | ⟨call, held, at_work, e⟩
  · exact e ▸ aside
  · rw [e]
    exact aside.look at_work held nofun

theorem foldl_halt (hops : List Nat) (h : Threading conduct c told d) (stopped : ∀ hop, told hop) :
    Threading conduct c told (hops.foldl Chain.halt d) := by
  induction hops generalizing d with
  | nil => exact h
  | cons hop rest ih => exact ih (h.halt (stopped hop))

theorem connect (idle : c.progress = .idle) (barred : ∀ hop, c.Barred hop → told hop) :
    Threading conduct c told (c.step .connect) := by
  unfold step
  rw [idle]
  let d : Chain ρ := { c with outcome := none, progress := .idle }
  have follows : c.Follows d := .of_same rfl rfl rfl
  have uncalled : d.calls = c.calls ++ [] := (List.append_nil _).symm
  exact enter_threading follows barred rfl uncalled (.nil conduct c) rfl

theorem step (h : Threading conduct c told d) {event : ChainEvent ρ} (fits : d.Fits conduct event)
    (tells : Tells told event) : Threading conduct c told (d.step event) := by
  cases event with
  | connect =>
    cases progress : d.progress <;> simp only [Chain.step, Fits, progress] at fits ⊢ <;> exact h
  | dialled result =>
    cases progress : d.progress with
    | dialling =>
      have at_work := atWork?_dialling progress
      cases result with
      | ok =>
        simp only [Chain.step, progress]
        exact h.beside ⟨.of_same rfl rfl rfl, rfl, rfl, at_work.symm⟩ h.barred
      | error fault =>
        simp only [Chain.step, Fits, progress] at fits ⊢
        exact h.look at_work false fun _ member => Option.some.inj member ▸ fits
    | idle => simpa only [Chain.step, progress] using h
    | talking hop inbound => simpa only [Chain.step, progress] using h
  | answered result =>
    cases progress : d.progress with
    | talking hop inbound =>
      simp only [Chain.step, Fits, progress] at fits ⊢
      exact h.look (atWork?_talking progress) true fun _ member => Option.some.inj member ▸ fits
    | idle => simpa only [Chain.step, progress] using h
    | dialling => simpa only [Chain.step, progress] using h
  | halt hop => exact h.halt tells
  | stop => exact h.foldl_halt _ tells
  | drop =>
    simp only [Chain.step]
    split
    · exact h.beside (.of_same rfl rfl rfl rfl rfl) h.barred
    · exact h

theorem run (h : Threading conduct c told d) {history : List (ChainEvent ρ)}
    (behaved : Behaved conduct d history) (tells : ∀ event ∈ history, Tells told event) :
    Threading conduct c told (d.run history) := by
  induction history generalizing d with
  | nil => exact h
  | cons event rest ih =>
    obtain ⟨first, later⟩ := List.forall_mem_cons.mp tells
    exact ih (h.step behaved.1 first) behaved.2 later

end Threading

theorem enter_moves (c : Chain ρ) (hop : Nat) (stream : ρ) :
    (∃ result, (c.enter hop (some stream)).outcome = some result) ∨
      (c.enter hop (some stream)).progress = .talking hop (some stream) := by
  unfold enter
  cases c.hops[hop]? with
  | none => exact .inl ⟨_, rfl⟩
  | some h =>
    dsimp only
    split
    · exact .inl ⟨_, rfl⟩
    · exact .inr rfl

theorem answered_moves (result : Except Fault ρ) {hop : Nat} {inbound : Option ρ}
    (talking : d.progress = .talking hop inbound) (inside : hop < d.hops.length) :
    (∃ result', (d.step (.answered result)).outcome = some result') ∨
      ∃ stream, (d.step (.answered result)).progress = .talking (hop + 1) (some stream) := by
  have looks : d.step (.answered result) = d.look hop true (some result) := by
    simp only [step, talking]
  obtain ⟨d', -, -, ⟨-, e⟩ | ⟨absurd, -⟩ | ⟨stream, -, e⟩ | ⟨fault, -, e⟩⟩ :=
    look_cases d (List.getElem?_eq_getElem inside) true (some result)
  · exact .inl ⟨_, by rw [looks, e]; rfl⟩
  · cases absurd
  · rw [looks, e]
    exact (enter_moves d' (hop + 1) stream).imp_right fun h => ⟨stream, h⟩
  · exact .inl ⟨_, by rw [looks, e]; rfl⟩

namespace Threading

theorem inside {call : Call ρ} (h : Threading conduct c told d) (at_work : d.atWork? = some call) :
    call.hop < d.hops.length := by
  obtain ⟨-, calls, -, threaded, at_last⟩ := h.working at_work
  have := threaded.last_hop at_last
  have := threaded.within
  rw [h.follows.length_eq]
  omega

/-- The hops that are left answer one after another. The induction is on how many they are. -/
theorem talking_ends (n : Nat) {hop : Nat} {inbound : Option ρ} (h : Threading conduct c told d)
    (talking : d.progress = .talking hop inbound) (left : d.hops.length ≤ hop + n) :
    ∃ more, d.Behaved conduct more ∧ (∀ event ∈ more, Tells (fun _ => False) event) ∧
      ∃ result, (d.run more).outcome = some result := by
  have inside : hop < d.hops.length :=
    h.inside (atWork?_talking talking)
  induction n generalizing d hop inbound with
  | zero => omega
  | succ n ih =>
    have fits : d.Fits conduct (.answered (conduct ⟨hop, inbound, d.next hop⟩)) := by
      simp only [Fits, talking]
    rcases answered_moves (conduct ⟨hop, inbound, d.next hop⟩) talking inside with
      ended | ⟨stream, talking'⟩
    · exact ⟨[_], ⟨fits, trivial⟩, List.forall_mem_singleton.mpr trivial, ended⟩
    · have h' := h.step fits trivial
      have length := (follows_step d (.answered (conduct ⟨hop, inbound, d.next hop⟩))).length_eq
      obtain ⟨more, behaved, quiet, ended⟩ :=
        ih h' talking' (by omega) (h'.inside (atWork?_talking talking'))
      exact ⟨_ :: more, ⟨fits, behaved⟩, List.forall_mem_cons.mpr ⟨trivial, quiet⟩, ended⟩

theorem ends (h : Threading conduct c told d) :
    ∃ more, d.Behaved conduct more ∧ (∀ event ∈ more, Tells (fun _ => False) event) ∧
      ∃ result, (d.run more).outcome = some result := by
  cases progress : d.progress with
  | idle =>
    obtain ⟨calls, -, -, stands⟩ := h.stands
    rcases stands with ⟨-, at_work, -⟩ | ⟨outcome, -, -⟩
    · simp [atWork?, progress] at at_work
    · exact ⟨[], trivial, List.forall_mem_nil _, _, outcome⟩
  | dialling =>
    have fits : d.Fits conduct (.dialled (.ok ())) := by simp only [Fits]
    have talking : (d.step (.dialled (.ok ()))).progress = .talking 0 none := by
      simp only [Chain.step, progress]
    obtain ⟨more, behaved, quiet, ended⟩ :=
      talking_ends _ (h.step fits trivial) talking (Nat.le_add_left _ _)
    exact ⟨_ :: more, ⟨fits, behaved⟩, List.forall_mem_cons.mpr ⟨trivial, quiet⟩, ended⟩
  | talking hop inbound => exact talking_ends _ h progress (Nat.le_add_left _ _)

end Threading

end

end Chain

theorem Plan.chain_next {ρ : Type} (plan : Plan) (hop : Nat) :
    (plan.chain ρ).next hop = ((plan.hops[hop + 1]?).map HopSettings.endpoint).getD plan.target := by
  unfold Chain.next Plan.chain
  rw [List.getElem?_map]
  cases plan.hops[hop + 1]? <;> rfl

/-- Behind the proxy lies the jump host, or the target if there is none, and behind the jump host the target. -/
theorem Plan.ofParts_behind (target : Endpoint) (proxy : Option Proxy) (ssh : Option JumpHost) (hop : Nat) :
    (∀ p, (Plan.ofParts target proxy ssh).hops[hop]? = some (.socks p) →
      (((Plan.ofParts target proxy ssh).hops[hop + 1]?).map HopSettings.endpoint).getD target =
        (ssh.map JumpHost.endpoint).getD target) ∧
    ∀ host, (Plan.ofParts target proxy ssh).hops[hop]? = some (.ssh host) →
      (((Plan.ofParts target proxy ssh).hops[hop + 1]?).map HopSettings.endpoint).getD target = target := by
  cases proxy <;> cases ssh <;> rcases hop with _ | _ | hop <;> simp [Plan.ofParts, HopSettings.endpoint]

theorem Plan.ofParts_asked {ρ : Type} {target : Endpoint} {proxy : Option Proxy} {ssh : Option JumpHost}
    {history : List (ChainEvent ρ)} {call : Call ρ}
    (called : call ∈ (((Plan.ofParts target proxy ssh).chain ρ).run history).calls) :
    (∀ p, (Plan.ofParts target proxy ssh).hops[call.hop]? = some (.socks p) →
      call.next = (ssh.map JumpHost.endpoint).getD target) ∧
    ∀ host, (Plan.ofParts target proxy ssh).hops[call.hop]? = some (.ssh host) → call.next = target := by
  obtain ⟨more, e, asked⟩ := (Chain.follows_run ((Plan.ofParts target proxy ssh).chain ρ) history).calls
  rw [e] at called
  rw [asked call called, Plan.chain_next]
  exact Plan.ofParts_behind target proxy ssh call.hop

namespace Chain

/-- A connect sets the hops to work in order, the first without a stream and each later one on the very stream
that the one before it came to, and asks each for the server behind it. While it lasts, the last hop set to
work is at work; it can always come to its end, and ends with the failure of the hop that failed, with the
stream of the last hop, or as misconfigured where there are no hops. On the usual route the proxy comes before
the jump host, and is asked for nothing but the jump host, or the target where there is no jump host. -/
theorem connect_threads {ρ : Type} (c : Chain ρ) (idle : c.progress = .idle) (conduct : Conduct ρ)
    (history : List (ChainEvent ρ)) (behaved : (c.step .connect).Behaved conduct history) :
    (∃ calls, ((c.step .connect).run history).calls = c.calls ++ calls ∧ Threaded conduct c calls ∧
      Stands conduct c (c.Told history) calls ((c.step .connect).run history)) ∧
    (∃ more, ((c.step .connect).run history).Behaved conduct more ∧
      (∀ event ∈ more, Tells (fun _ => False) event) ∧
      ∃ result, (((c.step .connect).run history).run more).outcome = some result) ∧
    ∀ (target : Endpoint) (proxy : Option Proxy) (ssh : Option JumpHost),
      (Plan.ofParts target proxy ssh).hops =
        proxy.toList.map HopSettings.socks ++ ssh.toList.map HopSettings.ssh ∧
      ∀ (events : List (ChainEvent ρ)),
        ∀ call ∈ (((Plan.ofParts target proxy ssh).chain ρ).run events).calls,
          (∀ p, (Plan.ofParts target proxy ssh).hops[call.hop]? = some (.socks p) →
            call.next = (ssh.map JumpHost.endpoint).getD target) ∧
          ∀ host, (Plan.ofParts target proxy ssh).hops[call.hop]? = some (.ssh host) →
            call.next = target := by
  have threading : Threading conduct c (c.Told history) ((c.step .connect).run history) :=
    (Threading.connect idle fun _ => .inl).run behaved tells_of_mem
  refine ⟨threading.stands, threading.ends, fun target proxy ssh => ⟨?_, fun events call called => ?_⟩⟩
  · cases proxy <;> cases ssh <;> rfl
  · exact Plan.ofParts_asked called

/-- A jump host behind a proxy, which fails on the stream that the proxy came to. -/
theorem connect_threads_refused :
    let proxy : Proxy := { host := "proxy", port := 1080 }
    let bastion : JumpHost := { host := "bastion", username := "deploy", privateKey := "key" }
    let refusal : Fault := .sshConnect "deploy@bastion:22" "connection refused" ""
    let c := (Plan.ofParts ⟨"db", 5432⟩ (some proxy) (some bastion)).chain Nat
    let conduct : Conduct Nat := fun call => if call.hop = 0 then .ok 7 else .error refusal
    let history := [.dialled (.ok ()), .answered (.ok 7), .answered (.error refusal)]
    let d := (c.step .connect).run history
    let calls : List (Call Nat) := [⟨0, none, ⟨"bastion", 22⟩⟩, ⟨1, some 7, ⟨"db", 5432⟩⟩]
    c.progress = .idle ∧ (c.step .connect).Behaved conduct history ∧ d.calls = calls ∧
      Threaded conduct c calls ∧ d.outcome = some (.error refusal) ∧
      Ended conduct c (c.Told history) calls (.error refusal) := by
  intro proxy bastion refusal c conduct history d calls
  have behaved : (c.step .connect).Behaved conduct history := ⟨trivial, rfl, rfl, trivial⟩
  have called : d.calls = calls := rfl
  have outcome : d.outcome = some (.error refusal) := rfl
  obtain ⟨⟨calls', called', threaded, stands⟩, -⟩ := connect_threads c rfl conduct history behaved
  obtain rfl : calls' = calls := called'.symm
  refine ⟨rfl, behaved, called, threaded, outcome, ?_⟩
  rcases stands with ⟨outcome', -, -⟩ | ⟨outcome', -, ended⟩
  · cases outcome'.symm.trans outcome
  · obtain rfl := Option.some.inj (outcome'.symm.trans outcome)
    exact ended

end Chain
end Passage
