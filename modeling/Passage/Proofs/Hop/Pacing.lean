import Passage.Proofs.Hop.Holding

namespace Passage

namespace Station

def settings : Station → HopSettings
  | .socks hop => .socks hop.proxy
  | .ssh hop => .ssh hop.host

def firstFault : Station → Option Fault
  | .socks hop => hop.state.firstFault
  | .ssh hop => hop.state.firstFault

/-- Whether the connect has not come here yet. -/
def isAhead : Station → Bool
  | .socks hop => hop.calls.isEmpty
  | .ssh hop => hop.calls.isEmpty

variable (station : Station)

theorem result?_call (next : Endpoint) (ahead : station.isAhead = true) : (station.call next).result? = none := by
  cases station with
  | socks hop =>
    have uncalled : hop.calls = [] := List.isEmpty_iff.mp ahead
    simp [call, result?, Socks.Hop.step, Socks.Hop.result?, uncalled]
  | ssh hop =>
    have uncalled : hop.calls = [] := List.isEmpty_iff.mp ahead
    simp [call, result?, Ssh.Hop.step, Ssh.Hop.result?, uncalled]

@[simp]
theorem settings_stride (s : Stride) : (station.stride s).settings = station.settings := by
  cases station with
  | socks hop => cases s <;> simp [stride, settings, Stride.onSocks, Socks.Hop.run, Socks.Hop.proxy_step]
  | ssh hop => cases s <;> simp [stride, settings, Stride.onSsh, Ssh.Hop.run, Ssh.Hop.host_step]

/-- What a step of the connect at a hop comes to: nothing yet, or success, or a failure that the hop keeps, or
the stop, which it does not keep. -/
inductive Fares (s : Stride) : Prop where
  | on (unended : (station.stride s).result? = none)
      (kept : (station.stride s).firstFault = station.firstFault)
  | well (ready : s.needsStream = true) (ended : (station.stride s).result? = some (.ok ()))
      (kept : (station.stride s).firstFault = station.firstFault)
  | failed (fault : Fault) (ended : (station.stride s).result? = some (.error fault))
      (kept : (station.stride s).firstFault = station.firstFault.or (some fault))
  | halted (told : station.isStopped = true)
      (ended : (station.stride s).result? = some (.error station.settings.stoppedFault))
      (kept : (station.stride s).firstFault = station.firstFault)

theorem Fares.socks_on {hop moved : Socks.Hop} {s : Stride} (takes : hop.run s.onSocks.toList = moved)
    (unended : moved.result? 0 = none) (kept : moved.state = hop.state) : (Station.socks hop).Fares s := by
  subst takes
  exact .on unended (congrArg HopState.firstFault kept)

theorem Fares.ssh_on {hop moved : Ssh.Hop} {s : Stride} (takes : hop.run s.onSsh.toList = moved)
    (unended : moved.result? 0 = none) (kept : moved.state = hop.state) : (Station.ssh hop).Fares s := by
  subst takes
  exact .on unended (congrArg HopState.firstFault kept)

theorem socks_fares {hop : Socks.Hop} (unended : hop.result? 0 = none) (s : Stride) : (socks hop).Fares s := by
  have same (still : hop.run s.onSocks.toList = hop) : (socks hop).Fares s := .socks_on still unended rfl
  rcases at_call : hop.calls[0]? with _ | ⟨point, next⟩
  · exact same (by cases s <;> simp [Stride.onSocks, Socks.Hop.run, Socks.Hop.step, at_call])
  cases point with
  | done result => simp [Socks.Hop.result?, at_call] at unended
  | arriving =>
    cases s with
    | look =>
      have goes : hop.run (Stride.onSocks .look).toList = hop.step (.look 0) := rfl
      simp only [Socks.Hop.step, at_call] at goes
      split at goes
      · next told =>
        refine .halted told ?_ ?_ <;> simp only [stride, result?, firstFault, goes]
        · simp [Socks.Hop.place, Socks.Hop.result?, Socks.Hop.stoppedFault, settings, at_call]
        · rfl
      · exact .socks_on goes (by simp [Socks.Hop.place, Socks.Hop.result?, at_call]) rfl
    | _ => exact same (by simp [Stride.onSocks, Socks.Hop.run, Socks.Hop.step, at_call])
  | working =>
    cases s with
    | wait =>
      have goes : hop.run (Stride.onSocks .wait).toList = hop.step (.wait 0) := rfl
      simp only [Socks.Hop.step, at_call] at goes
      exact .socks_on goes (by simp [Socks.Hop.place, Socks.Hop.result?, at_call]) rfl
    | succeed =>
      have goes : hop.run (Stride.onSocks .succeed).toList = hop.step (.succeed 0) := rfl
      simp only [Socks.Hop.step, at_call] at goes
      refine .well rfl ?_ ?_ <;> simp only [stride, result?, firstFault, goes]
      · simp [Socks.Hop.finish, Socks.Hop.place, Socks.Hop.result?, at_call]
      · rfl
    | setback setback =>
      have goes : hop.run (Stride.onSocks (.setback setback)).toList = hop.step (.fail 0 setback) := rfl
      simp only [Socks.Hop.step, at_call] at goes
      refine .failed (setback.blame hop.proxy next) ?_ ?_ <;> simp only [stride, result?, firstFault, goes]
      · simp [Socks.Hop.finish, Socks.Hop.place, Socks.Hop.result?, at_call]
      · rfl
    | _ => exact same (by simp [Stride.onSocks, Socks.Hop.run, Socks.Hop.step, at_call])

theorem ssh_fares {hop : Ssh.Hop} (unended : hop.result? 0 = none) (s : Stride) : (ssh hop).Fares s := by
  have same (still : hop.run s.onSsh.toList = hop) : (ssh hop).Fares s := .ssh_on still unended rfl
  rcases at_call : hop.calls[0]? with _ | ⟨point, next⟩
  · exact same (by cases s <;> simp [Stride.onSsh, Ssh.Hop.run, Ssh.Hop.step, at_call])
  cases point with
  | done result => simp [Ssh.Hop.result?, at_call] at unended
  | arriving errand =>
    cases s with
    | look =>
      have goes : hop.run (Stride.onSsh .look).toList = hop.step (.look 0) := rfl
      simp only [Ssh.Hop.step, at_call] at goes
      split at goes
      · next told =>
        refine .halted told ?_ ?_ <;> simp only [stride, result?, firstFault, goes]
        · simp [Ssh.Hop.place, Ssh.Hop.result?, Ssh.Hop.stoppedFault, settings, at_call]
        · rfl
      · exact .ssh_on goes (by simp [Ssh.Hop.place, Ssh.Hop.result?, at_call]) rfl
    | _ => exact same (by simp [Stride.onSsh, Ssh.Hop.run, Ssh.Hop.step, at_call])
  | working errand =>
    cases s with
    | wait =>
      have goes : hop.run (Stride.onSsh .wait).toList = hop.step (.wait 0) := rfl
      simp only [Ssh.Hop.step, at_call] at goes
      exact .ssh_on goes (by simp [Ssh.Hop.place, Ssh.Hop.result?, at_call]) rfl
    | succeed =>
      have goes : hop.run (Stride.onSsh .succeed).toList = hop.step (.succeed 0) := rfl
      simp only [Ssh.Hop.step, at_call] at goes
      cases errand with
      | login => exact .ssh_on goes (by simp [Ssh.Hop.place, Ssh.Hop.result?, at_call]) rfl
      | channel =>
        refine .well rfl ?_ ?_ <;> simp only [stride, result?, firstFault, goes]
        · simp [Ssh.Hop.finish, Ssh.Hop.place, Ssh.Hop.result?, at_call]
        · rfl
    | failure failure =>
      have goes : hop.run (Stride.onSsh (.failure failure)).toList = hop.step (.fail 0 failure) := rfl
      simp only [Ssh.Hop.step, at_call] at goes
      refine .failed (failure.blame hop.host next) ?_ ?_ <;> simp only [stride, result?, firstFault, goes]
      · simp [Ssh.Hop.finish, Ssh.Hop.place, Ssh.Hop.result?, at_call]
      · rfl
    | _ => exact same (by simp [Stride.onSsh, Ssh.Hop.run, Ssh.Hop.step, at_call])
  | registering =>
    cases s with
    | register =>
      have goes : hop.run (Stride.onSsh .register).toList = hop.step (.register 0) := rfl
      simp only [Ssh.Hop.step, at_call] at goes
      exact .ssh_on goes (by simp [Ssh.Hop.place, Ssh.Hop.result?, at_call]) rfl
    | _ => exact same (by simp [Stride.onSsh, Ssh.Hop.run, Ssh.Hop.step, at_call])
  | checking =>
    cases s with
    | check =>
      have goes : hop.run (Stride.onSsh .check).toList = hop.step (.check 0) := rfl
      simp only [Ssh.Hop.step, at_call] at goes
      refine .ssh_on goes ?_ rfl
      split <;> simp [Ssh.Hop.place, Ssh.Hop.result?, at_call]
    | _ => exact same (by simp [Stride.onSsh, Ssh.Hop.run, Ssh.Hop.step, at_call])
  | withdrawing =>
    cases s with
    | withdraw runtime =>
      -- The session that was registered is given up, and the hop keeps that as a failure.
      have goes : hop.run (Stride.onSsh (.withdraw runtime)).toList = hop.step (.withdraw 0 runtime) := rfl
      simp only [Ssh.Hop.step, at_call] at goes
      refine .failed hop.stoppedFault ?_ ?_ <;> simp only [stride, result?, firstFault, goes]
      · simp [Ssh.Hop.giveUp, Ssh.Hop.finish, Ssh.Hop.place, Ssh.Hop.result?, at_call]
      · rfl
    | _ => exact same (by simp [Stride.onSsh, Ssh.Hop.run, Ssh.Hop.step, at_call])

theorem fares (unended : station.result? = none) (s : Stride) : station.Fares s := by
  cases station with
  | socks hop => exact socks_fares unended s
  | ssh hop => exact ssh_fares unended s

@[simp]
theorem result?_raise : station.raise.result? = station.result? := by
  cases station <;> rfl

@[simp]
theorem result?_sweep (runtime : Bool) : (station.sweep runtime).result? = station.result? := by
  cases station with
  | socks hop => rfl
  | ssh hop =>
    simp only [sweep, Ssh.Hop.step]
    split <;> rfl

@[simp]
theorem isAhead_raise : station.raise.isAhead = station.isAhead := by
  cases station <;> rfl

@[simp]
theorem isAhead_sweep (runtime : Bool) : (station.sweep runtime).isAhead = station.isAhead := by
  cases station with
  | socks hop => rfl
  | ssh hop =>
    simp only [sweep, Ssh.Hop.step]
    split <;> rfl

end Station

namespace Custody

variable {σ ι : Type} {c : Custody σ} {library : Ssh.Library σ ι}

/-- Whether the connect has yet to come to a hop. -/
def Progress.isBefore : Progress → Nat → Bool
  | .idle, _ => true
  | .working here _, hop => here < hop
  | .finished _, _ => false

/-- The hop at work has come to nothing yet, and those after it have not begun. -/
structure Paced (c : Custody σ) : Prop where
  working : ∀ hop grip, c.progress = .working hop grip →
    ∃ station, c.stations[hop]? = some station ∧ station.result? = none
  ahead : ∀ hop station, c.progress.isBefore hop = true → c.stations[hop]? = some station → station.isAhead = true

/-- What a step of the connect makes of the chain when it fits at the hop at work. -/
inductive Advances (c : Custody σ) (s : Stride) (hop : Nat) (grip : Grip) (station : Station) : Prop where
  | on (unended : (station.stride s).result? = none) (kept : (station.stride s).firstFault = station.firstFault)
      (same : c.stride s = { c with stations := c.stations.modify hop (·.stride s) })
  | extended (stream : Stream) (dialled : grip ≠ .empty)
      (kept : (station.stride s).firstFault = station.firstFault)
      (same : c.stride s =
        enter { c with stations := c.stations.modify hop (·.stride s) } (hop + 1) (.stream stream))
  | failed (fault : Fault) (ended : (station.stride s).result? = some (.error fault))
      (kept : (station.stride s).firstFault = station.firstFault.or (some fault))
      (same : c.stride s =
        finish { c with stations := c.stations.modify hop (·.stride s) } (some (.error fault)))
  | halted (told : station.isStopped = true) (kept : (station.stride s).firstFault = station.firstFault)
      (same : c.stride s =
        finish { c with stations := c.stations.modify hop (·.stride s) }
          (some (.error station.settings.stoppedFault)))

theorem Grip.ne_empty_of_yield {grip : Grip} {hop : Nat} {station : Station} {stream : Stream}
    (given : grip.yield? hop station = some stream) : grip ≠ .empty := by
  rintro rfl
  cases station <;> cases given

theorem Paced.advances (paced : c.Paced) (s : Stride) :
    c.stride s = c ∨
      ∃ hop grip station, c.progress = .working hop grip ∧ c.stations[hop]? = some station ∧
        c.Advances s hop grip station := by
  cases progress : c.progress with
  | idle | finished _ => exact .inl (by simp only [Custody.stride, progress])
  | working hop grip =>
    obtain ⟨station, found, unended⟩ := paced.working hop grip progress
    by_cases blocked : (s.needsStream && (grip.yield? hop station).isNone) = true
    · exact .inl (by simp only [Custody.stride, progress, found, if_pos blocked])
    have goes : c.stride s =
        goOn { c with stations := c.stations.modify hop (·.stride s) } hop (station.stride s).result?
          (grip.yield? hop station) := by
      simp only [Custody.stride, progress, found, if_neg blocked]
    refine .inr ⟨hop, grip, station, rfl, found, ?_⟩
    cases station.fares unended s with
    | on unended kept => exact .on unended kept (by rw [goes, unended]; rfl)
    | failed fault ended kept => exact .failed fault ended kept (by rw [goes, ended, goOn])
    | halted told ended kept => exact .halted told kept (by rw [goes, ended, goOn])
    | well ready ended kept =>
      cases given : grip.yield? hop station with
      | none => simp [ready, given] at blocked
      | some stream => exact .extended stream (Grip.ne_empty_of_yield given) kept (by rw [goes, ended, given, goOn])

theorem paced_finished (finished : c.progress.isFinished = true) : c.Paced := by
  refine ⟨fun hop grip here => ?_, fun hop station before => ?_⟩
  · rw [here] at finished
    cases finished
  · cases progress : c.progress with
    | finished outcome => rw [progress] at before; cases before
    | idle | working _ _ => rw [progress] at finished; cases finished

theorem paced_enter {hop : Nat} (grip : Grip)
    (ahead : ∀ i station, hop ≤ i → c.stations[i]? = some station → station.isAhead = true) :
    (c.enter hop grip).Paced := by
  unfold enter
  split
  · next within =>
    have found := List.getElem?_eq_getElem within
    refine ⟨?_, ?_⟩
    · intro hop' grip' here
      cases here
      refine ⟨_, getElem?_modify_of_some found _, ?_⟩
      exact Station.result?_call _ _ (ahead hop _ (Nat.le_refl _) found)
    · intro i station later at_i
      have later : hop < i := of_decide_eq_true later
      change (c.stations.modify hop _)[i]? = _ at at_i
      rw [List.getElem?_modify_ne _ _ (Nat.ne_of_lt later)] at at_i
      exact ahead i station (Nat.le_of_lt later) at_i
  · split
    · exact paced_finished rfl
    · exact paced_finished rfl

theorem Paced.stride (paced : c.Paced) (s : Stride) : (c.stride s).Paced := by
  obtain same | ⟨hop, grip, station, working, found, advances⟩ := paced.advances s
  · rwa [same]
  have ahead (i : Nat) (other : Station) (later : hop < i)
      (at_i : (c.stations.modify hop (·.stride s))[i]? = some other) : other.isAhead = true := by
    rw [List.getElem?_modify_ne _ _ (Nat.ne_of_lt later)] at at_i
    exact paced.ahead i other (by rw [working]; exact decide_eq_true later) at_i
  cases advances with
  | on unended kept same =>
    rw [same]
    refine ⟨?_, ?_⟩
    · intro hop' grip' here
      cases working.symm.trans here
      exact ⟨_, getElem?_modify_of_some found _, unended⟩
    · intro i other later at_i
      rw [show c.progress = _ from working] at later
      exact ahead i other (of_decide_eq_true later) at_i
  | extended stream dialled kept same =>
    rw [same]
    exact paced_enter _ fun i other later => ahead i other later
  | failed fault ended kept same =>
    rw [same]
    exact paced_finished rfl
  | halted told kept same =>
    rw [same]
    exact paced_finished rfl

theorem Paced.restation (paced : c.Paced) {stations : List Station}
    (same : stations.map (fun station => (station.result?, station.isAhead)) =
      c.stations.map fun station => (station.result?, station.isAhead)) : Paced { c with stations } := by
  have views (i : Nat) := congrArg (·[i]?) same
  simp only [List.getElem?_map] at views
  refine ⟨fun hop grip here => ?_, fun hop station before at_hop => ?_⟩
  · obtain ⟨old, found, unended⟩ := paced.working hop grip here
    have view := views hop
    rw [found] at view
    obtain ⟨station, at_hop, view⟩ := Option.map_eq_some_iff.mp view
    exact ⟨station, at_hop, (Prod.mk.inj view).1.trans unended⟩
  · have view := views hop
    rw [show stations[hop]? = some station from at_hop] at view
    obtain ⟨old, found, view⟩ := Option.map_eq_some_iff.mp view.symm
    exact (Prod.mk.inj view).2.symm.trans (paced.ahead hop old before found)

theorem Paced.obey (paced : c.Paced) (runtime : Bool) (order : Order) : (c.obey runtime order).Paced := by
  cases order <;> exact paced.restation (map_modify_same _ (by simp) _ _)

theorem Paced.of_same {c' : Custody σ} (paced : c.Paced) (progress : c'.progress = c.progress)
    (stations : c'.stations = c.stations) : c'.Paced := by
  refine ⟨?_, ?_⟩
  · rw [progress, stations]
    exact paced.working
  · rw [progress, stations]
    exact paced.ahead

theorem Paced.regrip {c' : Custody σ} {hop : Nat} {grip grip' : Grip} (paced : c.Paced)
    (working : c.progress = .working hop grip) (still : c'.progress = .working hop grip')
    (stations : c'.stations = c.stations) : c'.Paced := by
  refine ⟨fun hop' grip'' here => ?_, fun i station before at_i => ?_⟩
  · cases still.symm.trans here
    rw [stations]
    exact paced.working hop grip working
  · rw [still] at before
    rw [stations] at at_i
    exact paced.ahead i station (by rw [working]; exact before) at_i

theorem Paced.move (paced : c.Paced) (i : Nat) (become : Task σ → Option σ) : (c.move i become).Paced := by
  unfold Custody.move
  repeat' split
  all_goals exact paced.of_same rfl rfl

theorem Paced.step (paced : c.Paced) (e : Event ι) : (c.step library e).Paced := by
  cases e with
  | connect =>
    simp only [Custody.step]
    split
    · next idle =>
      apply paced_enter
      intro i station _ at_i
      exact paced.ahead i station (by rw [idle]; rfl) at_i
    · exact paced
  | dialled =>
    simp only [Custody.step]
    split
    · next hop working =>
      split
      · exact paced.regrip working rfl rfl
      · exact paced
    · exact paced
  | spawned =>
    simp only [Custody.step]
    split
    · next hop transport working =>
      split
      · split
        · exact paced.regrip working rfl rfl
        · exact paced
      · exact paced
    · exact paced
  | stride s => exact paced.stride s
  | meet i _ | poll i | leave i => exact paced.move i _
  | abandon =>
    simp only [Custody.step]
    split
    · exact paced_finished rfl
    · exact paced
  | drop | stop => exact paced.of_same rfl rfl
  | proceed i runtime =>
    simp only [Custody.step]
    split
    · next order rest _ => exact (paced.obey runtime order).of_same rfl rfl
    · exact paced

theorem paced_start (plan : Plan) (base : Nat) : (plan.custody σ base).Paced := by
  refine ⟨nofun, fun hop station _ at_hop => ?_⟩
  have member := List.mem_of_getElem? at_hop
  obtain ⟨settings, -, rfl⟩ := List.mem_map.mp member
  cases settings <;> rfl

end Custody
end Passage
