import Passage.Proofs.Hop.Pacing
import Passage.Proofs.Hop.Threading

namespace Passage

namespace Station

variable (station : Station)

/-- The hop as its chain sees it, before it has seen a stop. -/
def outline : ChainHop :=
  ⟨station.settings.endpoint, station.settings.stoppedFault, { firstFault := station.firstFault }⟩

theorem outline_ofSettings (settings : HopSettings) :
    (ofSettings settings).outline = ⟨settings.endpoint, settings.stoppedFault, {}⟩ := by
  cases settings <;> rfl

@[simp]
theorem outline_call (next : Endpoint) : (station.call next).outline = station.outline := by
  cases station <;> rfl

@[simp]
theorem outline_raise : station.raise.outline = station.outline := by
  cases station <;> rfl

theorem outline_stride {s : Stride} (kept : (station.stride s).firstFault = station.firstFault) :
    (station.stride s).outline = station.outline := by
  rw [outline, settings_stride, kept, outline]

theorem outline_failed {s : Stride} {fault : Fault}
    (kept : (station.stride s).firstFault = station.firstFault.or (some fault)) :
    (station.stride s).outline = { station.outline with state := station.outline.state.record fault } := by
  rw [outline, settings_stride, kept]
  rfl

@[simp]
theorem outline_sweep (runtime : Bool) : (station.sweep runtime).outline = station.outline := by
  cases station with
  | socks hop => rfl
  | ssh hop =>
    simp only [sweep, Ssh.Hop.step]
    split <;> rfl

end Station

def ChainHop.lowered (h : ChainHop) : ChainHop :=
  { h with state := { h.state with stopped := false } }

namespace Chain

variable {ρ : Type} {c : Chain ρ} {hop : Nat} {h : ChainHop}

theorem run_one (event : ChainEvent ρ) : c.run [event] = c.step event := rfl

theorem enter_lowered (found : c.hops[hop]? = some h) (lowered : h.state.stopped = false) (inbound : Option ρ) :
    c.enter hop inbound =
      { c with
        progress := if inbound.isSome then .talking hop inbound else .dialling
        calls := c.calls ++ [⟨hop, inbound, c.next hop⟩] } := by
  simp [enter, found, lowered]

theorem set_same (found : c.hops[hop]? = some h) : c.hops.set hop { h with state := h.state } = c.hops := by
  obtain ⟨inside, rfl⟩ := List.getElem?_eq_some_iff.mp found
  exact List.set_getElem_self inside

theorem look_ok (found : c.hops[hop]? = some h) (lowered : h.state.stopped = false) (held : Bool) (stream : ρ) :
    c.look hop held (some (.ok stream)) = c.enter (hop + 1) (some stream) := by
  simp [look, found, lowered, HopState.poll, HopState.settle, set_same found]

theorem look_error (found : c.hops[hop]? = some h) (lowered : h.state.stopped = false) (held : Bool)
    (fault : Fault) :
    ∃ sockets, c.look hop held (some (.error fault)) =
      fail { c with hops := c.hops.set hop { h with state := h.state.record fault }, sockets } fault := by
  refine ⟨if held then c.sockets - 1 else c.sockets, ?_⟩
  cases held <;> simp [look, found, lowered, HopState.poll, HopState.settle, closeSocket]

theorem look_stopped (found : c.hops[hop]? = some h) (stopped : h.state.stopped = true) (held : Bool)
    (progress : Option (Except Fault ρ)) :
    ∃ sockets, c.look hop held progress = fail { c with sockets } h.onStop := by
  refine ⟨if held then c.sockets - 1 else c.sockets, ?_⟩
  cases held <;> simp [look, found, stopped, HopState.poll, closeSocket, set_same found]

theorem exists_failed {call : Call ρ} (at_work : c.atWork? = some call) (found : c.hops[call.hop]? = some h)
    (lowered : h.state.stopped = false) (fault : Fault) :
    ∃ event sockets, c.step event =
      fail { c with hops := c.hops.set call.hop { h with state := h.state.record fault }, sockets } fault := by
  cases progress : c.progress with
  | idle => simp [atWork?, progress] at at_work
  | dialling =>
    cases (atWork?_dialling progress).symm.trans at_work
    obtain ⟨sockets, looks⟩ := look_error found lowered false fault
    exact ⟨.dialled (.error fault), sockets, by simpa only [step, progress] using looks⟩
  | talking working inbound =>
    cases (atWork?_talking progress).symm.trans at_work
    obtain ⟨sockets, looks⟩ := look_error found lowered true fault
    exact ⟨.answered (.error fault), sockets, by simpa only [step, progress] using looks⟩

theorem exists_halted {call : Call ρ} (at_work : c.atWork? = some call) (found : c.hops[call.hop]? = some h) :
    ∃ sockets, c.step (.halt call.hop) =
      fail { c with hops := c.hops.modify call.hop fun h => { h with state := h.state.stop }, sockets } h.onStop := by
  let stopping : Chain ρ := { c with hops := c.hops.modify call.hop fun h => { h with state := h.state.stop } }
  have told : stopping.hops[call.hop]? = some { h with state := h.state.stop } := by
    simp [stopping, found]
  cases progress : c.progress with
  | idle => simp [atWork?, progress] at at_work
  | dialling =>
    cases (atWork?_dialling progress).symm.trans at_work
    have halts : c.step (.halt 0) = stopping.look 0 false none := by simp only [step, halt, progress, if_true, stopping]
    rw [halts]
    exact look_stopped told rfl false none
  | talking working inbound =>
    cases (atWork?_talking progress).symm.trans at_work
    have halts : c.step (.halt working) = stopping.look working true none := by
      simp only [step, halt, progress, if_true, stopping]
    rw [halts]
    exact look_stopped told rfl true none

end Chain

namespace Custody

variable {σ ι : Type} {c : Custody σ} {d : Chain Unit} {library : Ssh.Library σ ι}

def Progress.outline : Progress → Passage.Progress Unit
  | .working _ .empty => .dialling
  | .working hop _ => .talking hop (if hop = 0 then none else some ())
  | .idle | .finished _ => .idle

def Progress.outcome? : Progress → Option (Except Fault Unit)
  | .finished outcome => outcome
  | _ => none

/-- The chain `d` is what `c` looks like when all that is known of the hops is what the connect comes upon. -/
structure Outlines (c : Custody σ) (d : Chain Unit) : Prop where
  /-- A stop is seen when the connect comes upon it. -/
  hops : d.hops.map ChainHop.lowered = c.stations.map Station.outline
  kept : d.kept = c.kept.toList.map fun _ => ()
  outcome : d.outcome = c.progress.outcome?
  unseen : c.progress.isFinished = false → d.hops = c.stations.map Station.outline
  progress : c.progress.isFinished = false → d.progress = c.progress.outline

theorem outlines_start (plan : Plan) (base : Nat) : Outlines (plan.custody σ base) (plan.chain Unit) := by
  have hops : (plan.chain Unit).hops = (plan.custody σ base).stations.map Station.outline := by
    simp [Plan.chain, Plan.custody, Station.outline_ofSettings]
  refine ⟨?_, rfl, rfl, fun _ => hops, fun _ => rfl⟩
  rw [hops, List.map_map]
  rfl

theorem Outlines.of_same {c' : Custody σ} (outlines : c.Outlines d)
    (stations : c'.stations.map Station.outline = c.stations.map Station.outline) (kept : c'.kept = c.kept)
    (progress : c'.progress = c.progress) : c'.Outlines d := by
  refine ⟨stations ▸ outlines.hops, kept ▸ outlines.kept, progress ▸ outlines.outcome, fun under_way => ?_,
    fun under_way => ?_⟩
  · rw [stations]
    exact outlines.unseen (progress ▸ under_way)
  · rw [progress]
    exact outlines.progress (progress ▸ under_way)

theorem outlines_finished (finished : c.progress.isFinished = true)
    (hops : d.hops.map ChainHop.lowered = c.stations.map Station.outline)
    (kept : d.kept = c.kept.toList.map fun _ => ()) (outcome : d.outcome = c.progress.outcome?) : c.Outlines d := by
  refine ⟨hops, kept, outcome, fun under_way => ?_, fun under_way => ?_⟩
  · rw [finished] at under_way
    cases under_way
  · rw [finished] at under_way
    cases under_way

theorem Outlines.regrip (outlines : c.Outlines d) {hop : Nat} {grip grip' : Grip} {progress : Passage.Progress Unit}
    {tasks : List (Task σ)} {opened sockets : Nat} (working : c.progress = .working hop grip)
    (same : progress = Progress.outline (.working hop grip')) :
    Outlines { c with progress := .working hop grip', tasks, sockets := opened } { d with progress, sockets } := by
  have under_way : c.progress.isFinished = false := by rw [working]; rfl
  exact ⟨outlines.hops, outlines.kept, outlines.outcome.trans (by rw [working]; rfl),
    fun _ => outlines.unseen under_way, fun _ => same⟩

theorem Outlines.finish (outlines : c.Outlines d) {stations : List Station} {hops : List ChainHop}
    (same : hops.map ChainHop.lowered = stations.map Station.outline) (fault : Fault) (sockets : Nat) :
    Outlines (finish { c with stations } (some (.error fault))) (Chain.fail { d with hops, sockets } fault) :=
  outlines_finished rfl same outlines.kept rfl

theorem Outlines.at_work (outlines : c.Outlines d) {base : Nat} (holds : c.Holds base) {hop : Nat} {grip : Grip}
    {station : Station} (working : c.progress = .working hop grip) (found : c.stations[hop]? = some station) :
    ∃ call, d.atWork? = some call ∧ call.hop = hop ∧ d.hops[hop]? = some station.outline := by
  have under_way : c.progress.isFinished = false := by rw [working]; rfl
  have at_hop : d.hops[hop]? = some station.outline := by
    rw [outlines.unseen under_way, List.getElem?_map, found]
    rfl
  have progress := outlines.progress under_way
  rw [working] at progress
  cases grip with
  | empty =>
    cases holds.first hop working
    exact ⟨_, Chain.atWork?_dialling progress, rfl, at_hop⟩
  | stream _ | session => exact ⟨_, Chain.atWork?_talking progress, rfl, at_hop⟩

theorem map_modify_at {α β : Type} (g : α → β) {f : α → α} {l : List α} {i : Nat} {a : α} (found : l[i]? = some a) :
    (l.modify i f).map g = (l.map g).set i (g (f a)) := by
  obtain ⟨inside, rfl⟩ := List.getElem?_eq_some_iff.mp found
  apply List.ext_getElem?
  intro j
  simp only [List.getElem?_map, List.getElem?_modify, List.getElem?_set, List.length_map]
  by_cases same : i = j
  · subst same
    simp [inside]
  · simp [same]

section

variable {hop : Nat} {station : Station} {s : Stride}

theorem map_outline_stride (found : c.stations[hop]? = some station)
    (kept : (station.stride s).firstFault = station.firstFault) :
    (c.stations.modify hop (·.stride s)).map Station.outline = c.stations.map Station.outline := by
  rw [map_modify_at Station.outline found, station.outline_stride kept]
  obtain ⟨inside, rfl⟩ := List.getElem?_eq_some_iff.mp found
  rw [← List.map_set, List.set_getElem_self]

/-- The chain goes on to the hop that the connect comes to, or ends as the connect does. -/
theorem outlines_enter {grip : Grip} {inbound : Option Unit}
    (hops : d.hops = c.stations.map Station.outline) (unkept : c.kept = none) (nothing : d.kept = [])
    (lasting : d.outcome = none)
    (given : hop = 0 ∧ grip = .empty ∧ inbound = none ∨
      0 < hop ∧ (∃ stream, grip = .stream stream) ∧ inbound = some ()) :
    Outlines (c.enter hop grip) (d.enter hop inbound) := by
  have lowered : (c.stations.map Station.outline).map ChainHop.lowered = c.stations.map Station.outline := by
    rw [List.map_map]
    rfl
  by_cases within : hop < c.stations.length
  · have found : d.hops[hop]? = some c.stations[hop].outline := by simp [hops, within]
    have called : (c.stations.modify hop (·.call ((c.plan.chain Unit).next hop))).map Station.outline =
        c.stations.map Station.outline := map_modify_same _ (by simp) _ _
    rw [enter, if_pos within, Chain.enter_lowered found rfl]
    refine ⟨?_, ?_, lasting, fun _ => hops.trans called.symm, fun _ => ?_⟩
    · rw [called, ← lowered, ← hops]
    · exact nothing.trans (by rw [unkept]; rfl)
    · obtain ⟨rfl, rfl, rfl⟩ | ⟨later, ⟨stream, rfl⟩, rfl⟩ := given
      · rfl
      · simp [Progress.outline, Nat.ne_of_gt later]
  · have beyond : d.hops[hop]? = none := by simp [hops, Nat.le_of_not_lt within]
    rw [enter, if_neg within]
    obtain ⟨rfl, rfl, rfl⟩ | ⟨later, ⟨stream, rfl⟩, rfl⟩ := given
    · simp only [Chain.enter, beyond, Grip.stream?]
      exact outlines_finished rfl (hops ▸ lowered) (nothing.trans (by rw [finish, letGo, unkept]; rfl)) rfl
    · simp only [Chain.enter, beyond, Grip.stream?]
      exact outlines_finished rfl (hops ▸ lowered) (by simp [Chain.succeed, nothing]) rfl

end

section

variable {base : Nat}

/-- What the connect does at a hop is nothing to the chain, or an answer of the hop, or a stop. -/
theorem Outlines.stride (outlines : c.Outlines d) (paced : c.Paced) (holds : c.Holds base) (s : Stride) :
    ∃ seen : List (ChainEvent Unit), (c.stride s).Outlines (d.run seen) := by
  obtain same | ⟨hop, grip, station, working, found, advances⟩ := paced.advances s
  · exact ⟨[], by rw [same]; exact outlines⟩
  obtain ⟨call, at_work, rfl, at_hop⟩ := outlines.at_work holds working found
  have under_way : c.progress.isFinished = false := by rw [working]; rfl
  cases advances with
  | on unended kept same =>
    refine ⟨[], ?_⟩
    rw [same]
    exact outlines.of_same (map_outline_stride found kept) rfl rfl
  | extended stream dialled kept same =>
    have talking : ∃ inbound, d.progress = .talking call.hop inbound := by
      rw [outlines.progress under_way, working]
      cases grip with
      | empty => exact absurd rfl dialled
      | stream _ | session => exact ⟨_, rfl⟩
    obtain ⟨inbound, talking⟩ := talking
    have answers : d.run [.answered (.ok ())] = d.enter (call.hop + 1) (some ()) := by
      rw [← Chain.look_ok at_hop rfl true ()]
      simp only [Chain.run_one, Chain.step, talking]
    refine ⟨[.answered (.ok ())], ?_⟩
    rw [same, answers]
    have unkept := holds.unkept under_way
    apply outlines_enter
    · exact (outlines.unseen under_way).trans (map_outline_stride found kept).symm
    · exact unkept
    · rw [outlines.kept, unkept]
      rfl
    · rw [outlines.outcome, working]
      rfl
    · exact .inr ⟨Nat.succ_pos _, ⟨stream, rfl⟩, rfl⟩
  | failed fault ended kept same =>
    obtain ⟨event, sockets, fails⟩ := Chain.exists_failed at_work at_hop rfl fault
    refine ⟨[event], ?_⟩
    rw [same, Chain.run_one, fails]
    apply outlines.finish
    rw [List.map_set, outlines.hops, map_modify_at Station.outline found, station.outline_failed kept]
    rfl
  | halted told kept same =>
    obtain ⟨sockets, halts⟩ := Chain.exists_halted at_work at_hop
    refine ⟨[.halt call.hop], ?_⟩
    rw [same, Chain.run_one, halts]
    apply outlines.finish
    rw [map_outline_stride found kept, ← outlines.hops]
    apply map_modify_same
    exact fun _ => rfl

theorem Outlines.move (outlines : c.Outlines d) (i : Nat) (become : Task σ → Option σ) :
    (c.move i become).Outlines d := by
  unfold Custody.move
  repeat' split
  all_goals exact outlines.of_same rfl rfl rfl

theorem Outlines.obey (outlines : c.Outlines d) (runtime : Bool) (order : Order) :
    (c.obey runtime order).Outlines d := by
  cases order <;> exact outlines.of_same (map_modify_same _ (by simp) _ _) rfl rfl

theorem Outlines.step (outlines : c.Outlines d) (paced : c.Paced) (holds : c.Holds base) (e : Event ι) :
    ∃ seen : List (ChainEvent Unit), (c.step library e).Outlines (d.run seen) := by
  cases e with
  | connect =>
    simp only [Custody.step]
    split
    · next idle =>
      have under_way : c.progress.isFinished = false := by rw [idle]; rfl
      have unkept := holds.unkept under_way
      have progress : d.progress = .idle := by rw [outlines.progress under_way, idle]; rfl
      have connects : d.run [.connect] = { d with outcome := none }.enter 0 none := by
        simp only [Chain.run_one, Chain.step, progress]
      refine ⟨[.connect], ?_⟩
      rw [connects]
      apply outlines_enter
      · exact outlines.unseen under_way
      · exact unkept
      · exact outlines.kept.trans (by rw [unkept]; rfl)
      · rfl
      · exact .inl ⟨rfl, rfl, rfl⟩
    · exact ⟨[], outlines⟩
  | dialled =>
    simp only [Custody.step]
    split
    · next hop working =>
      split
      · cases holds.first hop working
        have progress : d.progress = .dialling := by rw [outlines.progress (by rw [working]; rfl), working]; rfl
        have dials : d.run [.dialled (.ok ())] = { d with sockets := d.sockets + 1, progress := .talking 0 none } := by
          simp only [Chain.run_one, Chain.step, progress]
        refine ⟨[.dialled (.ok ())], ?_⟩
        rw [dials]
        exact outlines.regrip working rfl
      · exact ⟨[], outlines⟩
    · exact ⟨[], outlines⟩
  | spawned =>
    simp only [Custody.step]
    split
    · next hop transport working =>
      split
      · split
        · have progress : d.progress = Progress.outline (.working hop .session) := by
            rw [outlines.progress (by rw [working]; rfl), working]
            rfl
          exact ⟨[], outlines.regrip working progress⟩
        · exact ⟨[], outlines⟩
      · exact ⟨[], outlines⟩
    · exact ⟨[], outlines⟩
  | stride s => exact outlines.stride paced holds s
  | meet i _ | poll i | leave i => exact ⟨[], outlines.move i _⟩
  | abandon =>
    simp only [Custody.step]
    split
    · next hop grip working =>
      have lasting : d.outcome = none := outlines.outcome.trans (by rw [working]; rfl)
      exact ⟨[], outlines_finished rfl outlines.hops outlines.kept lasting⟩
    · exact ⟨[], outlines⟩
  | drop =>
    refine ⟨[.drop], ?_⟩
    have kept := outlines.kept
    cases handed : c.kept with
    | none =>
      have drops : d.run [.drop] = d := by
        simp only [Chain.run_one, Chain.step, kept, handed]
        rfl
      rw [drops]
      exact outlines.of_same rfl handed.symm rfl
    | some stream =>
      rw [handed] at kept
      have drops : d.run [.drop] = { d with kept := [], sockets := d.sockets - 1 } := by
        simp only [Chain.run_one, Chain.step, kept]
        rfl
      rw [drops]
      exact ⟨outlines.hops, rfl, outlines.outcome, outlines.unseen, outlines.progress⟩
  | stop => exact ⟨[], outlines.of_same rfl rfl rfl⟩
  | proceed i runtime =>
    simp only [Custody.step]
    split
    · next order rest _ => exact ⟨[], (outlines.obey runtime order).of_same rfl rfl rfl⟩
    · exact ⟨[], outlines⟩

theorem Outlines.run (outlines : c.Outlines d) (paced : c.Paced) (holds : c.Holds base) (history : List (Event ι)) :
    ∃ seen : List (ChainEvent Unit), (c.run library history).Outlines (d.run seen) := by
  induction history generalizing c d with
  | nil => exact ⟨[], outlines⟩
  | cons e rest ih =>
    obtain ⟨first, now⟩ := outlines.step paced holds e
    obtain ⟨later, after⟩ := ih now (paced.step e) (holds.step e)
    exact ⟨first ++ later, by rw [Chain.run, List.foldl_append]; exact after⟩

end

/-- The chain keeps the failure that is kept nearest to the client. -/
theorem Outlines.firstFault_eq (outlines : c.Outlines d) : d.firstFault = c.stations.findSome? Station.firstFault := by
  calc d.firstFault
    _ = (d.hops.map ChainHop.lowered).findSome? (·.state.firstFault) := by rw [List.findSome?_map]; rfl
    _ = (c.stations.map Station.outline).findSome? (·.state.firstFault) := by rw [outlines.hops]
    _ = c.stations.findSome? Station.firstFault := by rw [List.findSome?_map]; rfl

/-- Whatever becomes of a chain of real hops, with stops, sessions and tasks at any of their steps, the connect
and the failures that are kept are as they can become in a chain that is told what its hops come to. -/
theorem exists_outlines (library : Ssh.Library σ ι) (plan : Plan) (base : Nat) (history : List (Event ι)) :
    let c := (plan.custody σ base).run library history
    ∃ seen : List (ChainEvent Unit),
      c.Outlines ((plan.chain Unit).run seen) ∧
      ((plan.chain Unit).run seen).firstFault = c.stations.findSome? Station.firstFault := by
  intro c
  obtain ⟨seen, outlines⟩ := (outlines_start plan base).run (paced_start plan base) (holds_start plan base) history
  exact ⟨seen, outlines, outlines.firstFault_eq⟩

end Custody
end Passage
