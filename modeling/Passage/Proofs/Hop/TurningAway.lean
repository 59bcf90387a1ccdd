import Passage.Proofs.Hop.Remembering

namespace Passage

namespace Station

def isArriving : Station → Bool
  | .socks hop =>
    match hop.calls[(0 : Nat)]? with
    | some (.arriving, _) => true
    | _ => false
  | .ssh hop =>
    match hop.calls[(0 : Nat)]? with
    | some (.arriving _, _) => true
    | _ => false

section

variable (station : Station)

theorem isArriving_call (next : Endpoint) (ahead : station.isAhead = true) :
    (station.call next).isArriving = true := by
  cases station with
  | socks hop =>
    have uncalled : hop.calls = [] := List.isEmpty_iff.mp ahead
    simp [call, isArriving, Socks.Hop.step, uncalled]
  | ssh hop =>
    have uncalled : hop.calls = [] := List.isEmpty_iff.mp ahead
    simp [call, isArriving, Ssh.Hop.step, uncalled]

@[simp]
theorem isArriving_raise : station.raise.isArriving = station.isArriving := by
  cases station <;> rfl

@[simp]
theorem isArriving_sweep (runtime : Bool) : (station.sweep runtime).isArriving = station.isArriving := by
  cases station with
  | socks hop => rfl
  | ssh hop =>
    simp only [sweep, Ssh.Hop.step]
    split <;> rfl

end

section

variable {station : Station} (arriving : station.isArriving = true)
include arriving

theorem isAtWork_of_arriving : station.isAtWork = false := by
  cases station with
  | socks hop =>
    simp only [isArriving] at arriving
    split at arriving
    · next found => simp [isAtWork, found]
    · cases arriving
  | ssh hop =>
    simp only [isArriving] at arriving
    split at arriving
    · next found => simp [isAtWork, found]
    · cases arriving

/-- Where the connect has come to a stopped hop, it does nothing until it looks; then it is turned away. -/
theorem stride_arriving (told : station.isStopped = true) (s : Stride) :
    s ≠ .look ∧ station.stride s = station ∨
      s = .look ∧ (station.stride s).result? = some (.error station.settings.stoppedFault) ∧
        (station.stride s).firstFault = station.firstFault := by
  cases station with
  | socks hop =>
    simp only [isArriving] at arriving
    split at arriving
    · next next found =>
      cases s with
      | look =>
        have stopped : hop.state.stopped = true := told
        refine .inr ⟨rfl, ?_, ?_⟩
        · simp [stride, result?, settings, Stride.onSocks, Socks.Hop.run, Socks.Hop.step, Socks.Hop.place,
            Socks.Hop.result?, Socks.Hop.stoppedFault, found, stopped]
        · simp [stride, firstFault, Stride.onSocks, Socks.Hop.run, Socks.Hop.step, found]
      | _ => exact .inl ⟨by simp, by simp [stride, Stride.onSocks, Socks.Hop.run, Socks.Hop.step, found]⟩
    · cases arriving
  | ssh hop =>
    simp only [isArriving] at arriving
    split at arriving
    · next errand next found =>
      cases s with
      | look =>
        have stopped : hop.state.stopped = true := told
        refine .inr ⟨rfl, ?_, ?_⟩
        · simp [stride, result?, settings, Stride.onSsh, Ssh.Hop.run, Ssh.Hop.step, Ssh.Hop.place, Ssh.Hop.result?,
            Ssh.Hop.stoppedFault, found, stopped]
        · simp [stride, firstFault, Stride.onSsh, Ssh.Hop.run, Ssh.Hop.step, Ssh.Hop.place, found, stopped]
      | _ => exact .inl ⟨by simp, by simp [stride, Stride.onSsh, Ssh.Hop.run, Ssh.Hop.step, found]⟩
    · cases arriving

end

end Station

namespace Custody

variable {σ ι : Type} {c : Custody σ} {library : Ssh.Library σ ι} {onStop : Fault} {base : Nat}

/-- How far a connect can come that the first hop turns away. -/
inductive Turned (onStop : Fault) (station : Station) : Progress → Prop where
  | idle : Turned onStop station .idle
  | arriving (told : station.isStopped = true) (here : station.isArriving = true) :
      Turned onStop station (.working 0 .empty)
  | refused : Turned onStop station (.finished (some (.error onStop)))
  | abandoned : Turned onStop station (.finished none)

/-- Nothing was opened, and nothing is kept. -/
structure Unopened (onStop : Fault) (base : Nat) (c : Custody σ) : Prop where
  clean : c.Clean
  sockets : c.sockets = base
  tasks : c.tasks = []
  kept : c.kept = none
  first : ∃ station, c.stations[0]? = some station ∧ station.settings.stoppedFault = onStop ∧
    Turned onStop station c.progress

theorem modify_fixed {α : Type} {f : α → α} {l : List α} {i : Nat} {a : α} (found : l[i]? = some a)
    (fixed : f a = a) : l.modify i f = l := by
  apply List.ext_getElem?
  intro j
  rw [List.getElem?_modify]
  by_cases same : i = j
  · subst same
    simp [found, fixed]
  · simp [same]

theorem Unopened.stride (unopened : c.Unopened onStop base) (paced : c.Paced) (s : Stride) :
    (c.stride s).Unopened onStop base := by
  obtain ⟨station, first, own, turned⟩ := unopened.first
  obtain same | ⟨hop, grip, station', working, found, advances⟩ := paced.advances s
  · rwa [same]
  obtain ⟨waiting, at_work, unended⟩ := paced.working hop grip working
  rw [working] at turned
  cases turned with
  | arriving told here =>
    cases first.symm.trans found
    cases first.symm.trans at_work
    have unkept := unopened.clean station (List.mem_of_getElem? found)
    have looks := Station.stride_arriving here told s
    cases advances with
    | on still kept same =>
      obtain ⟨-, stays⟩ | ⟨-, ended, -⟩ := looks
      · rwa [same, modify_fixed first stays]
      · cases still.symm.trans ended
    | extended stream dialled => exact absurd rfl dialled
    | failed fault ended kept same =>
      obtain ⟨-, stays⟩ | ⟨-, -, unkept'⟩ := looks
      · rw [stays] at ended
        cases ended.symm.trans unended
      · rw [unkept', unkept] at kept
        cases kept
    | halted told kept same =>
      rw [same]
      refine ⟨unopened.clean.of_same (map_firstFault_stride found kept), ?_, unopened.tasks, unopened.kept,
        station.stride s, getElem?_modify_of_some first _, ?_, ?_⟩
      · simpa [finish, letGo, working, Progress.stream?, Grip.stream?] using unopened.sockets
      · rw [Station.settings_stride, own]
      · rw [own]
        exact .refused

theorem Unopened.tell (unopened : c.Unopened onStop base) (hop : Nat) {f : Station → Station}
    (kept : ∀ s, (f s).firstFault = s.firstFault) (settings : ∀ s, (f s).settings = s.settings)
    (told : ∀ s, s.isStopped = true → (f s).isStopped = true) (arriving : ∀ s, (f s).isArriving = s.isArriving) :
    Unopened onStop base { c with stations := c.stations.modify hop f } := by
  obtain ⟨station, first, own, turned⟩ := unopened.first
  refine ⟨unopened.clean.of_same (map_modify_same _ kept _ _), unopened.sockets, unopened.tasks, unopened.kept, ?_⟩
  by_cases same : hop = 0
  · subst same
    refine ⟨f station, getElem?_modify_of_some first f, by rw [settings, own], ?_⟩
    cases progress : c.progress with
    | idle => exact .idle
    | working _ _ =>
      rw [progress] at turned
      cases turned with
      | arriving stopped here => exact .arriving (told station stopped) ((arriving station).trans here)
    | finished _ =>
      rw [progress] at turned
      cases turned with
      | refused => exact .refused
      | abandoned => exact .abandoned
  · refine ⟨station, ?_, own, turned⟩
    change (c.stations.modify hop f)[0]? = _
    rw [List.getElem?_modify_ne _ _ same, first]

theorem Unopened.obey (unopened : c.Unopened onStop base) (runtime : Bool) (order : Order) :
    (c.obey runtime order).Unopened onStop base := by
  cases order with
  | raise hop => exact unopened.tell hop (by simp) (by simp) (by simp) (by simp)
  | sweep hop => exact unopened.tell hop (by simp) (by simp) (by simp) (by simp)

/-- Nothing that happens opens anything, if the connect comes to find the first hop stopped. -/
theorem Unopened.step (unopened : c.Unopened onStop base) (paced : c.Paced) {e : Event ι}
    (told : e = .connect → c.flags[0]? = some true) : (c.step library e).Unopened onStop base := by
  obtain ⟨station, first, own, turned⟩ := unopened.first
  cases e with
  | connect =>
    simp only [Custody.step]
    split
    · next idle =>
      have within : 0 < c.stations.length := (List.getElem?_eq_some_iff.mp first).1
      have flag := told rfl
      rw [flags, List.getElem?_map, first] at flag
      have ahead := paced.ahead 0 station (by rw [idle]; rfl) first
      have called : Turned onStop (station.call ((c.plan.chain Unit).next 0)) (.working 0 .empty) :=
        .arriving (by simpa using flag) (station.isArriving_call _ ahead)
      rw [enter, if_pos within]
      exact ⟨unopened.clean.of_same (map_modify_same _ (by simp) _ _), unopened.sockets, unopened.tasks, unopened.kept,
        _, getElem?_modify_of_some first _, by simpa using own, called⟩
    · exact unopened
  | dialled =>
    simp only [Custody.step]
    split
    · next hop working =>
      rw [working] at turned
      cases turned with
      | arriving told here =>
        simpa [first, Station.isAtWork_of_arriving here] using unopened
    · exact unopened
  | spawned =>
    simp only [Custody.step]
    split
    · next hop transport working =>
      rw [working] at turned
      cases turned
    · exact unopened
  | stride s => exact unopened.stride paced s
  | meet i _ | poll i | leave i =>
    simp only [Custody.step, move_idle unopened.tasks]
    exact unopened
  | abandon =>
    simp only [Custody.step]
    split
    · next hop grip working =>
      rw [working] at turned
      cases turned with
      | arriving told here =>
        refine ⟨unopened.clean.of_same rfl, ?_, unopened.tasks, unopened.kept, station, first, own, .abandoned⟩
        simpa [finish, letGo, working, Progress.stream?, Grip.stream?] using unopened.sockets
    · exact unopened
  | drop =>
    refine ⟨unopened.clean.of_same rfl, ?_, unopened.tasks, rfl, station, first, own, turned⟩
    simpa [Custody.step, letGo, unopened.kept] using unopened.sockets
  | stop =>
    exact ⟨unopened.clean.of_same rfl, unopened.sockets, unopened.tasks, unopened.kept, station, first, own, turned⟩
  | proceed i runtime =>
    simp only [Custody.step]
    split
    · next order rest _ =>
      obtain ⟨clean, sockets, tasks, kept, first⟩ := unopened.obey runtime order
      exact ⟨clean.of_same rfl, sockets, tasks, kept, first⟩
    · exact unopened

theorem raised_step {hop : Nat} (raised : c.flags[hop]? = some true) (e : Event ι) :
    (c.step library e).flags[hop]? = some true := by
  cases e with
  | connect =>
    simp only [Custody.step]
    split
    · rwa [flags_enter]
    · exact raised
  | dialled | spawned | abandon =>
    simp only [Custody.step]
    repeat' split
    all_goals exact raised
  | stride s =>
    simp only [Custody.step]
    rwa [flags_stride]
  | meet i _ | poll i | leave i =>
    simp only [Custody.step]
    rwa [flags_move]
  | drop | stop => exact raised
  | proceed i runtime =>
    simp only [Custody.step]
    split
    · next order rest _ =>
      change (c.obey runtime order).flags[hop]? = some true
      cases order with
      | raise other => rw [flags_raise, raised]; rfl
      | sweep other => rwa [flags_sweep]
    · exact raised

theorem Unopened.run (unopened : c.Unopened onStop base) (paced : c.Paced) {history : List (Event ι)}
    (told : .connect ∈ history → c.flags[0]? = some true) : (c.run library history).Unopened onStop base := by
  induction history generalizing c with
  | nil => exact unopened
  | cons e rest ih =>
    refine ih (unopened.step paced fun connect => told (connect ▸ .head _)) (paced.step e) fun later => ?_
    exact raised_step (told (.tail _ later)) e

theorem unopened_start {plan : Plan} {first : HopSettings} {rest : List HopSettings} (hops : plan.hops = first :: rest)
    (base : Nat) : (plan.custody σ base).Unopened first.stoppedFault base where
  clean := clean_start plan base
  sockets := rfl
  tasks := rfl
  kept := rfl
  first := by
    refine ⟨.ofSettings first, ?_, ?_, .idle⟩
    · simp [Plan.custody, hops]
    · cases first <;> rfl

theorem run_paced (paced : c.Paced) (history : List (Event ι)) : (c.run library history).Paced := by
  induction history generalizing c with
  | nil => exact paced
  | cons e rest ih => exact ih (paced.step e)

theorem length_run (c : Custody σ) (history : List (Event ι)) :
    (c.run library history).stations.length = c.stations.length := by
  induction history generalizing c with
  | nil => rfl
  | cons e rest ih => exact (ih (c.step library e)).trans (c.length_step e)

theorem Unopened.look (unopened : c.Unopened onStop base) {hop : Nat} {grip : Grip}
    (working : c.progress = .working hop grip) :
    (c.step library (.stride .look)).progress = .finished (some (.error onStop)) := by
  obtain ⟨station, first, own, turned⟩ := unopened.first
  rw [working] at turned
  cases turned with
  | arriving told here =>
    obtain ⟨other, -⟩ | ⟨-, ended, -⟩ := Station.stride_arriving here told .look
    · exact absurd rfl other
    · simp [Custody.step, Custody.stride, working, first, Stride.needsStream, ended, goOn, finish, own]

theorem Told.raised (told : c.Told) {hop : Nat} (within : hop < c.stations.length) (done : [] ∈ c.stops) :
    c.flags[hop]? = some true := by
  have flag : c.flags[hop]? = some c.stations[hop].isStopped := by
    rw [flags, List.getElem?_map, List.getElem?_eq_getElem within]
    rfl
  cases lowered : c.stations[hop].isStopped with
  | true => rw [flag, lowered]
  | false => cases told [] done hop (lowered ▸ flag)

/-- Once a chain was stopped before its connect, nothing opens it. -/
theorem unopened_stopped {plan : Plan} {first : HopSettings} {rest : List HopSettings}
    (hops : plan.hops = first :: rest) {before : List (Event ι)} (unasked : .connect ∉ before)
    (done : [] ∈ ((plan.custody σ base).run library before).stops) (after : List (Event ι)) :
    ((plan.custody σ base).run library (before ++ after)).Unopened first.stoppedFault base := by
  have paced : ((plan.custody σ base).run library before).Paced := run_paced (paced_start plan base) before
  have unopened : ((plan.custody σ base).run library before).Unopened first.stoppedFault base :=
    (unopened_start hops base).run (paced_start plan base) fun connect => absurd connect unasked
  have within : 0 < ((plan.custody σ base).run library before).stations.length := by
    simp [length_run, Plan.custody, hops]
  have told : ((plan.custody σ base).run library before).Told := Told.run (fun _ member => by cases member) before
  rw [run_append]
  exact unopened.run paced fun _ => told.raised within done

end Custody

namespace Chain

variable {ρ : Type} {c : Chain ρ} {onStop : Fault}

/-- Nothing was opened, no hop was set to work, and nothing is kept. -/
structure Unopened (onStop : Fault) (c : Chain ρ) : Prop where
  clean : ∀ h ∈ c.hops, h.state.firstFault = none
  idle : c.progress = .idle
  kept : c.kept = []
  sockets : c.sockets = 0
  calls : c.calls = []
  outcome : c.outcome = none ∨ c.outcome = some (.error onStop)
  first : ∃ h, c.hops[0]? = some h ∧ h.onStop = onStop

theorem Unopened.halt (unopened : c.Unopened onStop) (hop : Nat) :
    (c.halt hop).Unopened onStop ∧ (hop = 0 ∨ c.Barred 0 → (c.halt hop).Barred 0) := by
  have halts : c.halt hop = { c with hops := c.hops.modify hop fun h => { h with state := h.state.stop } } := by
    simp [Chain.halt, unopened.idle]
  obtain ⟨h, first, own⟩ := unopened.first
  rw [halts]
  have told : ∃ h', (c.hops.modify hop fun h => { h with state := h.state.stop })[0]? = some h' ∧ h'.onStop = onStop ∧
      (hop = 0 ∨ h.state.stopped = true → h'.state.stopped = true) := by
    by_cases same : hop = 0
    · subst same
      exact ⟨_, Custody.getElem?_modify_of_some first _, own, fun _ => rfl⟩
    · exact ⟨h, by rw [List.getElem?_modify_ne _ _ same, first], own, fun told => told.resolve_left same⟩
  obtain ⟨h', at_first, own', stopped⟩ := told
  refine ⟨⟨?_, unopened.idle, unopened.kept, unopened.sockets, unopened.calls, unopened.outcome, h', at_first, own'⟩,
    ?_⟩
  · intro other member
    obtain before | ⟨old, before, rfl⟩ := Custody.mem_modify_cases member
    · exact unopened.clean other before
    · exact unopened.clean old before
  · rintro (here | ⟨same, found, barred⟩)
    · exact ⟨h', at_first, stopped (.inl here)⟩
    · cases first.symm.trans found
      exact ⟨h', at_first, stopped (.inr barred)⟩

theorem Unopened.foldl_halt (unopened : c.Unopened onStop) (hops : List Nat) :
    (hops.foldl Chain.halt c).Unopened onStop ∧ (0 ∈ hops ∨ c.Barred 0 → (hops.foldl Chain.halt c).Barred 0) := by
  induction hops generalizing c with
  | nil => exact ⟨unopened, fun told => told.resolve_left List.not_mem_nil⟩
  | cons hop rest ih =>
    obtain ⟨now, barred⟩ := unopened.halt hop
    obtain ⟨later, barred'⟩ := ih now
    refine ⟨later, fun told => barred' ?_⟩
    rcases told with member | already
    · rcases List.mem_cons.mp member with rfl | later
      · exact .inr (barred (.inl rfl))
      · exact .inl later
    · exact .inr (barred (.inr already))

/-- A connect that finds the first hop stopped is turned away. -/
theorem Unopened.connect (unopened : c.Unopened onStop) (barred : c.Barred 0) :
    c.step .connect = { c with outcome := some (.error onStop) } := by
  obtain ⟨h, first, own⟩ := unopened.first
  obtain ⟨h', first', stopped⟩ := barred
  cases first.symm.trans first'
  simp [Chain.step, unopened.idle, enter, first, stopped, fail, own]

theorem Unopened.step (unopened : c.Unopened onStop) {e : ChainEvent ρ} (told : e = .connect → c.Barred 0) :
    (c.step e).Unopened onStop ∧ (e = .stop ∨ c.Barred 0 → (c.step e).Barred 0) := by
  cases e with
  | connect =>
    rw [unopened.connect (told rfl)]
    exact ⟨⟨unopened.clean, unopened.idle, unopened.kept, unopened.sockets, unopened.calls, .inr rfl, unopened.first⟩,
      fun _ => told rfl⟩
  | dialled result | answered result => simpa [Chain.step, unopened.idle] using unopened
  | halt hop =>
    obtain ⟨still, barred⟩ := unopened.halt hop
    exact ⟨still, fun told => barred (.inr (told.resolve_left (by simp)))⟩
  | stop =>
    obtain ⟨h, first, -⟩ := unopened.first
    obtain ⟨still, barred⟩ := unopened.foldl_halt (List.range c.hops.length)
    have inside : 0 < c.hops.length := (List.getElem?_eq_some_iff.mp first).1
    exact ⟨still, fun _ => barred (.inl (List.mem_range.mpr inside))⟩
  | drop => simpa [Chain.step, unopened.kept] using unopened

theorem Unopened.run (unopened : c.Unopened onStop) {history : List (ChainEvent ρ)}
    (told : .connect ∈ history → c.Barred 0) :
    (c.run history).Unopened onStop ∧ (.stop ∈ history ∨ c.Barred 0 → (c.run history).Barred 0) := by
  induction history generalizing c with
  | nil => exact ⟨unopened, fun told => told.resolve_left List.not_mem_nil⟩
  | cons e rest ih =>
    obtain ⟨now, barred⟩ := unopened.step fun connect => told (connect ▸ .head _)
    obtain ⟨later, barred'⟩ := ih now fun later => barred (.inr (told (.tail _ later)))
    refine ⟨later, fun stops => barred' ?_⟩
    rcases stops with member | already
    · rcases List.mem_cons.mp member with rfl | later
      · exact .inr (barred (.inl rfl))
      · exact .inl later
    · exact .inr (barred (.inr already))

theorem unopened_start {plan : Plan} {first : HopSettings} {rest : List HopSettings}
    (hops : plan.hops = first :: rest) : (plan.chain ρ).Unopened first.stoppedFault where
  clean := by
    intro h member
    obtain ⟨settings, -, rfl⟩ := List.mem_map.mp member
    rfl
  idle := rfl
  kept := rfl
  sockets := rfl
  calls := rfl
  outcome := .inl rfl
  first := ⟨⟨first.endpoint, first.stoppedFault, {}⟩, by simp [Plan.chain, hops], rfl⟩

theorem hasFailed_eq (c : Chain ρ) : c.hasFailed = c.firstFault.isSome := by
  rw [hasFailed, firstFault, List.isSome_findSome?]

/-- Once a chain was stopped before any connect, nothing opens it. -/
theorem unopened_stopped {plan : Plan} {first : HopSettings} {rest : List HopSettings}
    (hops : plan.hops = first :: rest) {before : List (ChainEvent ρ)} (unasked : .connect ∉ before)
    (stop : .stop ∈ before) (after : List (ChainEvent ρ)) :
    ((plan.chain ρ).run (before ++ after)).Unopened first.stoppedFault ∧
      ((plan.chain ρ).run (before ++ after)).Barred 0 := by
  obtain ⟨unopened, barred⟩ := (unopened_start hops).run fun connect => absurd connect unasked
  have told := barred (.inl stop)
  have later : (((plan.chain ρ).run before).run after).Unopened first.stoppedFault ∧ _ := unopened.run fun _ => told
  rw [run, List.foldl_append]
  exact ⟨later.1, later.2 (.inr told)⟩

theorem Unopened.firstFault_eq (unopened : c.Unopened onStop) : c.firstFault = none :=
  List.findSome?_eq_none_iff.mpr unopened.clean

end Chain

namespace Custody

variable {σ ι : Type}

theorem fault?_eq_some_iff {progress : Progress} {fault : Fault} :
    progress.fault? = some fault ↔ progress = .finished (some (.error fault)) := by
  unfold Progress.fault?
  split
  · simp
  · next other =>
    refine ⟨nofun, fun failed => absurd failed (other fault)⟩

/-- Once the connect of a chain is over that no stop interrupted, the chain has a failure exactly if the connect
returned one, and it is that one; of the hops only the one that failed keeps it. All of this is so as well where
the chain is told what its hops come to. If a chain with hops was stopped before its connect, every connect comes
to the failure of a first hop that was stopped; no socket is opened for it, and nothing is kept of it. -/
theorem connect_remembered (library : Ssh.Library σ ι) {plan : Plan} {first : HopSettings} {rest : List HopSettings}
    (hops : plan.hops = first :: rest) (base : Nat) :
    (∀ history : List (Event ι), StopsLate library (plan.custody σ base) history →
      let c := (plan.custody σ base).run library history
      (∀ fault, c.lastFault = some fault ↔ c.progress = .finished (some (.error fault))) ∧
      (c.hasFailed = true ↔ ∃ fault, c.progress = .finished (some (.error fault))) ∧
      (∀ fault, c.progress = .finished (some (.error fault)) → ∃ hop, c.FailedAt hop fault) ∧
      ∃ seen : List (ChainEvent Unit),
        let d := (plan.chain Unit).run seen
        d.outcome = c.progress.outcome? ∧ d.firstFault = c.lastFault ∧ d.hasFailed = c.hasFailed) ∧
    (∀ before after : List (Event ι), .connect ∉ before →
      [] ∈ ((plan.custody σ base).run library before).stops →
      let c := (plan.custody σ base).run library (before ++ after)
      c.sockets = base ∧ c.lastFault = none ∧ c.hasFailed = false ∧
      (∀ outcome, c.progress = .finished (some outcome) → outcome = .error first.stoppedFault) ∧
      (∀ hop grip, c.progress = .working hop grip →
        (c.step library (.stride .look)).progress = .finished (some (.error first.stoppedFault))) ∧
      (c.progress = .idle → (c.step library .connect).progress = .working 0 .empty)) ∧
    ∀ (ρ : Type) (before after : List (ChainEvent ρ)), .connect ∉ before → .stop ∈ before →
      let d := (plan.chain ρ).run (before ++ after)
      d.sockets = 0 ∧ d.calls = [] ∧ d.firstFault = none ∧ d.hasFailed = false ∧
      (d.outcome = none ∨ d.outcome = some (.error first.stoppedFault)) ∧
      (d.step .connect).outcome = some (.error first.stoppedFault) := by
  refine ⟨fun history late => ?_, fun before after unasked done => ?_, fun ρ before after unasked stop => ?_⟩
  · intro c
    have recalls := (recalls_start plan (by simp [hops]) base).run late
    have last (fault : Fault) : c.lastFault = some fault ↔ c.progress = .finished (some (.error fault)) := by
      rw [recalls.remembers.lastFault_eq, fault?_eq_some_iff]
    refine ⟨last, ?_, fun fault failed => recalls.remembers.failed fault (fault?_eq_some_iff.mpr failed), ?_⟩
    · rw [hasFailed_eq, Option.isSome_iff_exists]
      exact exists_congr last
    · obtain ⟨seen, outlines, firstFault⟩ := exists_outlines library plan base history
      refine ⟨seen, outlines.outcome, firstFault, ?_⟩
      rw [Chain.hasFailed_eq, firstFault, hasFailed_eq, lastFault]
  · intro c
    have unopened : c.Unopened first.stoppedFault base := unopened_stopped hops unasked done after
    obtain ⟨station, at_first, own, turned⟩ := unopened.first
    have last := unopened.clean.lastFault_eq
    refine ⟨unopened.sockets, last, by rw [hasFailed_eq, last]; rfl, ?_, fun hop grip => unopened.look, ?_⟩
    · intro outcome ended
      rw [ended] at turned
      cases turned
      rfl
    · intro idle
      have within : 0 < c.stations.length := (List.getElem?_eq_some_iff.mp at_first).1
      simp [step, idle, enter, within]
  · intro d
    obtain ⟨unopened, raised⟩ := Chain.unopened_stopped hops unasked stop after
    have first := unopened.firstFault_eq
    refine ⟨unopened.sockets, unopened.calls, first, by rw [Chain.hasFailed_eq, first]; rfl, unopened.outcome, ?_⟩
    rw [unopened.connect raised]

/-- The second hop turns the client's key down; and a chain of the same hops that was stopped turns the connect away. -/
theorem connect_remembered_rejected :
    let library := Ssh.Library.buffered 100
    let proxy : Proxy := { host := "proxy", port := 1080 }
    let bastion : JumpHost := { host := "bastion", username := "deploy", privateKey := "key" }
    let plan : Plan := { hops := [.socks proxy, .ssh bastion], target := ⟨"db", 5432⟩ }
    let history : List (Event Ssh.News) :=
      [.connect, .stride .look, .dialled, .stride .succeed, .stride .look, .spawned, .stride (.failure .rejected)]
    let rejected : Fault := .sshConnect bastion.label "public key authentication rejected" ""
    let stopped : Fault := .proxyConnect proxy.address "tunnel stopped" ""
    let before : List (Event Ssh.News) := [.stop, .proceed 0 true, .proceed 0 true, .proceed 0 true]
    let after : List (Event Ssh.News) := [.connect]
    let c := (plan.custody Nat 3).run library history
    let d := (plan.custody Nat 3).run library (before ++ after)
    plan.hops = .socks proxy :: [.ssh bastion] ∧ StopsLate library (plan.custody Nat 3) history ∧
      c.progress = .finished (some (.error rejected)) ∧ c.lastFault = some rejected ∧ c.hasFailed = true ∧
      (∃ hop, c.FailedAt hop rejected) ∧
      .connect ∉ before ∧ [] ∈ ((plan.custody Nat 3).run library before).stops ∧
      (d.step library (.stride .look)).progress = .finished (some (.error stopped)) ∧ d.sockets = 3 ∧
      d.lastFault = none ∧ ((plan.chain Unit).run [.stop, .connect]).firstFault = none := by
  intro library proxy bastion plan history rejected stopped before after c d
  have late : StopsLate library (plan.custody Nat 3) history := by
    intro before after split
    have member : .stop ∈ history := by rw [split]; simp
    simp [history] at member
  have unasked : .connect ∉ before := by simp [before]
  have done : [] ∈ ((plan.custody Nat 3).run library before).stops := by decide +kernel
  have failed : c.progress = .finished (some (.error rejected)) := fault?_eq_some_iff.mp (by decide +kernel)
  have working : d.progress = .working 0 .empty := rfl
  obtain ⟨remembers, turns, chain⟩ := connect_remembered library (rfl : plan.hops = .socks proxy :: [.ssh bastion]) 3
  obtain ⟨last, has, only, -⟩ := remembers history late
  obtain ⟨sockets, nothing, -, -, ends, -⟩ := turns before after unasked done
  obtain ⟨-, -, none_kept, -⟩ := chain Unit [.stop] [.connect] (by simp) (by simp)
  exact ⟨rfl, late, failed, (last rejected).mpr failed, has.mpr ⟨rejected, failed⟩, only rejected failed, unasked, done,
    ends 0 .empty working, sockets, nothing, none_kept⟩

end Custody
end Passage
