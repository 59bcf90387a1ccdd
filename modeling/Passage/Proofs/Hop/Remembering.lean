import Passage.Proofs.Hop.Outlining
import Passage.Proofs.Hop.Releasing

namespace Passage

namespace Station

variable (station : Station)

@[simp]
theorem settings_call (next : Endpoint) : (station.call next).settings = station.settings := by
  cases station <;> rfl

@[simp]
theorem settings_raise : station.raise.settings = station.settings := by
  cases station <;> rfl

@[simp]
theorem settings_sweep (runtime : Bool) : (station.sweep runtime).settings = station.settings := by
  cases station with
  | socks hop => rfl
  | ssh hop =>
    simp only [sweep, Ssh.Hop.step]
    split <;> rfl

@[simp]
theorem firstFault_call (next : Endpoint) : (station.call next).firstFault = station.firstFault := by
  cases station <;> rfl

@[simp]
theorem firstFault_raise : station.raise.firstFault = station.firstFault := by
  cases station <;> rfl

@[simp]
theorem firstFault_sweep (runtime : Bool) : (station.sweep runtime).firstFault = station.firstFault :=
  congrArg (·.state.firstFault) (station.outline_sweep runtime)

end Station

namespace Custody

variable {σ ι : Type} {c : Custody σ} {library : Ssh.Library σ ι}

/-- The first failure of the hop nearest to the client. -/
def lastFault (c : Custody σ) : Option Fault :=
  c.stations.findSome? Station.firstFault

def hasFailed (c : Custody σ) : Bool :=
  c.stations.any (·.firstFault.isSome)

def Progress.fault? : Progress → Option Fault
  | .finished (some (.error fault)) => some fault
  | _ => none

def Clean (c : Custody σ) : Prop :=
  ∀ station ∈ c.stations, station.firstFault = none

/-- No stop has begun, and no hop was told to stop. -/
structure Unstopped (c : Custody σ) : Prop where
  stops : c.stops = []
  flags : ∀ flag ∈ c.flags, flag = false

/-- The hop at which the connect failed keeps what it failed with, and no other hop keeps anything. -/
structure FailedAt (c : Custody σ) (hop : Nat) (fault : Fault) : Prop where
  there : ∃ station, c.stations[hop]? = some station ∧ station.result? = some (.error fault) ∧
    station.firstFault = some fault
  others : ∀ i station, i ≠ hop → c.stations[i]? = some station → station.firstFault = none

/-- The chain remembers what the connect failed with, and nothing else. -/
structure Remembers (c : Custody σ) : Prop where
  clean : c.progress.fault? = none → c.Clean
  failed : ∀ fault, c.progress.fault? = some fault → ∃ hop, c.FailedAt hop fault

section

variable {c' : Custody σ}

theorem Clean.of_same (clean : c.Clean)
    (same : c'.stations.map Station.firstFault = c.stations.map Station.firstFault) : c'.Clean := by
  intro station member
  have kept : station.firstFault ∈ c'.stations.map Station.firstFault := List.mem_map_of_mem member
  rw [same] at kept
  obtain ⟨old, before, kept⟩ := List.mem_map.mp kept
  rw [← kept, clean old before]

/-- As long as the connect has not failed, there is nothing to remember. -/
theorem Clean.remembers (clean : c.Clean)
    (same : c'.stations.map Station.firstFault = c.stations.map Station.firstFault)
    (unfailed : c'.progress.fault? = none) : c'.Remembers :=
  ⟨fun _ => clean.of_same same, fun fault failed => by rw [unfailed] at failed; cases failed⟩

theorem Unstopped.same (unstopped : c.Unstopped) (stops : c'.stops = c.stops) (flags : c'.flags = c.flags) :
    c'.Unstopped := by
  refine ⟨stops.trans unstopped.stops, ?_⟩
  rw [flags]
  exact unstopped.flags

theorem unfailed_of_under_way (under_way : c.progress.isFinished = false) : c.progress.fault? = none := by
  cases progress : c.progress with
  | finished outcome => rw [progress] at under_way; cases under_way
  | idle | working _ _ => rfl

/-- The connect is over, and the hops are as they were but for stops. -/
theorem Remembers.of_same (remembers : c.Remembers) (progress : c'.progress = c.progress)
    (same : c'.stations.map (fun station => (station.result?, station.firstFault)) =
      c.stations.map fun station => (station.result?, station.firstFault)) : c'.Remembers := by
  have views (i : Nat) := congrArg (·[i]?) same
  simp only [List.getElem?_map] at views
  refine ⟨fun unfailed => ?_, fun fault failed => ?_⟩
  · rw [progress] at unfailed
    apply (remembers.clean unfailed).of_same
    simpa [List.map_map, Function.comp_def] using congrArg (List.map Prod.snd) same
  · rw [progress] at failed
    obtain ⟨hop, ⟨station, found, ended, kept⟩, others⟩ := remembers.failed fault failed
    refine ⟨hop, ?_, fun i other apart at_i => ?_⟩
    · have view := views hop
      rw [found] at view
      obtain ⟨station', found', view⟩ := Option.map_eq_some_iff.mp view
      exact ⟨station', found', (Prod.mk.inj view).1.trans ended, (Prod.mk.inj view).2.trans kept⟩
    · have view := views i
      rw [at_i] at view
      obtain ⟨station', found', view⟩ := Option.map_eq_some_iff.mp view.symm
      exact (Prod.mk.inj view).2.symm.trans (others i station' apart found')

theorem Remembers.obey (remembers : c.Remembers) (runtime : Bool) (order : Order) :
    (c.obey runtime order).Remembers := by
  cases order <;> exact remembers.of_same rfl (map_modify_same _ (by simp) _ _)

/-- Once the connect is over, the chain remembers what it does. -/
theorem Remembers.step_finished (remembers : c.Remembers) (finished : c.progress.isFinished = true) (e : Event ι) :
    (c.step library e).Remembers ∧ (c.step library e).progress = c.progress := by
  cases e with
  | connect | dialled | spawned | abandon =>
    cases progress : c.progress with
    | idle | working _ _ => rw [progress] at finished; cases finished
    | finished outcome => simpa [Custody.step, progress] using remembers
  | stride s => simpa [Custody.step, stride_finished finished] using remembers
  | meet i _ | poll i | leave i =>
    simp only [Custody.step, Custody.move]
    repeat' split
    all_goals exact ⟨remembers.of_same rfl rfl, rfl⟩
  | drop | stop => exact ⟨remembers.of_same rfl rfl, rfl⟩
  | proceed i runtime =>
    simp only [Custody.step]
    split
    · next order rest _ =>
      refine ⟨(remembers.obey runtime order).of_same rfl rfl, ?_⟩
      cases order <;> rfl
    · exact ⟨remembers, rfl⟩

theorem Unstopped.step (unstopped : c.Unstopped) {e : Event ι} (other : e ≠ .stop) :
    (c.step library e).Unstopped := by
  cases e with
  | stop => exact absurd rfl other
  | connect =>
    simp only [Custody.step]
    split
    · exact unstopped.same (by simp) (by simp)
    · exact unstopped
  | dialled | spawned | abandon =>
    simp only [Custody.step]
    repeat' split
    all_goals exact unstopped.same rfl rfl
  | stride s => exact unstopped.same (c.stops_stride s) (c.flags_stride s)
  | meet i _ | poll i | leave i => exact unstopped.same (c.stops_move i _) (c.flags_move i _)
  | drop => exact unstopped.same rfl rfl
  | proceed i runtime => simpa [Custody.step, unstopped.stops] using unstopped

theorem map_firstFault_stride {hop : Nat} {station : Station} {s : Stride} (found : c.stations[hop]? = some station)
    (kept : (station.stride s).firstFault = station.firstFault) :
    (c.stations.modify hop (·.stride s)).map Station.firstFault = c.stations.map Station.firstFault := by
  simpa [List.map_map, Function.comp_def, Station.outline] using
    congrArg (List.map fun h : ChainHop => h.state.firstFault) (map_outline_stride found kept)

theorem Clean.stride (clean : c.Clean) (unstopped : c.Unstopped) (paced : c.Paced)
    (under_way : c.progress.isFinished = false) (s : Stride) : (c.stride s).Remembers := by
  have early := unfailed_of_under_way under_way
  obtain same | ⟨hop, grip, station, working, found, advances⟩ := paced.advances s
  · rw [same]
    exact clean.remembers rfl early
  have member := List.mem_of_getElem? found
  have unkept := clean station member
  cases advances with
  | on unended kept same =>
    rw [same]
    exact clean.remembers (map_firstFault_stride found kept) early
  | extended stream dialled kept same =>
    rw [same]
    have clean' : Clean { c with stations := c.stations.modify hop (·.stride s) } :=
      clean.of_same (map_firstFault_stride found kept)
    unfold enter
    split
    · exact clean'.remembers (map_modify_same _ (by simp) _ _) rfl
    · exact clean'.remembers rfl rfl
  | failed fault ended kept same =>
    rw [same]
    refine ⟨nofun, ?_⟩
    rintro _ ⟨rfl⟩
    refine ⟨hop, ⟨station.stride s, getElem?_modify_of_some found _, ended, ?_⟩, fun i other apart at_i => ?_⟩
    · rw [kept, unkept, Option.none_or]
    · change (c.stations.modify hop _)[i]? = _ at at_i
      rw [List.getElem?_modify_ne _ _ apart.symm] at at_i
      exact clean other (List.mem_of_getElem? at_i)
  | halted told kept same =>
    -- Nobody told the hop to stop.
    have lowered := unstopped.flags station.isStopped (List.mem_map_of_mem member)
    cases told.symm.trans lowered

/-- While the connect is under way and no stop comes, no hop keeps anything but what ends it. -/
theorem Clean.step (clean : c.Clean) (unstopped : c.Unstopped) (paced : c.Paced) (hops : 0 < c.stations.length)
    (under_way : c.progress.isFinished = false) (e : Event ι) : (c.step library e).Remembers := by
  have early := unfailed_of_under_way under_way
  cases e with
  | connect =>
    simp only [Custody.step]
    split
    · rw [enter, if_pos hops]
      exact clean.remembers (map_modify_same _ (by simp) _ _) rfl
    · exact clean.remembers rfl early
  | dialled | spawned | abandon =>
    simp only [Custody.step]
    repeat' split
    all_goals first | exact clean.remembers rfl early | exact clean.remembers rfl rfl
  | stride s => exact clean.stride unstopped paced under_way s
  | meet i _ | poll i | leave i =>
    simp only [Custody.step, Custody.move]
    repeat' split
    all_goals exact clean.remembers rfl early
  | drop | stop => exact clean.remembers rfl early
  | proceed i runtime =>
    simp only [Custody.step, unstopped.stops]
    exact clean.remembers rfl early

end

@[simp]
theorem length_enter (c : Custody σ) (hop : Nat) (grip : Grip) :
    (c.enter hop grip).stations.length = c.stations.length := by
  unfold enter
  split
  · exact List.length_modify _ _ _
  · split <;> rfl

@[simp]
theorem length_stride (c : Custody σ) (s : Stride) : (c.stride s).stations.length = c.stations.length := by
  rcases c.stride_cases s with same | ⟨hop, grip, station, -, -, moved⟩
  · rw [same]
  · rw [moved]
    unfold goOn
    split
    · exact List.length_modify _ _ _
    · rw [length_enter]
      exact List.length_modify _ _ _
    · exact List.length_modify _ _ _

theorem length_step (c : Custody σ) (e : Event ι) :
    (c.step library e).stations.length = c.stations.length := by
  cases e with
  | connect =>
    simp only [Custody.step]
    split <;> simp
  | dialled | spawned | abandon =>
    simp only [Custody.step]
    repeat' split
    all_goals rfl
  | stride s => exact c.length_stride s
  | meet i _ | poll i | leave i =>
    simp only [Custody.step, Custody.move]
    repeat' split
    all_goals rfl
  | drop | stop => rfl
  | proceed i runtime =>
    simp only [Custody.step]
    split
    · next order rest _ => cases order <;> simp [obey]
    · rfl

/-- A connect that is yet to come, under way or over, of which the chain remembers what it must. -/
structure Recalls (c : Custody σ) : Prop where
  hops : 0 < c.stations.length
  paced : c.Paced
  remembers : c.Remembers
  unstopped : c.progress.isFinished = false → c.Unstopped

theorem Recalls.step (recalls : c.Recalls) {e : Event ι} (late : e = .stop → c.progress.isFinished = true) :
    (c.step library e).Recalls := by
  have hops : 0 < (c.step library e).stations.length := by
    rw [length_step]
    exact recalls.hops
  cases finished : c.progress.isFinished with
  | true =>
    have settled : (c.step library e).Remembers ∧ (c.step library e).progress = c.progress :=
      recalls.remembers.step_finished finished e
    obtain ⟨remembers, same⟩ := settled
    exact ⟨hops, recalls.paced.step e, remembers, fun under_way => by rw [same, finished] at under_way; cases under_way⟩
  | false =>
    have unstopped := recalls.unstopped finished
    have other : e ≠ .stop := fun stop => by rw [late stop] at finished; cases finished
    have clean := recalls.remembers.clean (unfailed_of_under_way finished)
    exact ⟨hops, recalls.paced.step e, clean.step unstopped recalls.paced recalls.hops finished e,
      fun _ => unstopped.step other⟩

/-- No stop comes before the connect is over. -/
def StopsLate (library : Ssh.Library σ ι) (c : Custody σ) (history : List (Event ι)) : Prop :=
  ∀ before after, history = before ++ .stop :: after → (c.run library before).progress.isFinished = true

theorem Recalls.run (recalls : c.Recalls) {history : List (Event ι)} (late : StopsLate library c history) :
    (c.run library history).Recalls := by
  induction history generalizing c with
  | nil => exact recalls
  | cons e rest ih =>
    have first : e = .stop → c.progress.isFinished = true := by
      rintro rfl
      exact late [] rest rfl
    exact ih (recalls.step first) fun before after split => late (e :: before) after (by rw [split]; rfl)

theorem clean_start (plan : Plan) (base : Nat) : (plan.custody σ base).Clean := by
  intro station member
  obtain ⟨settings, -, rfl⟩ := List.mem_map.mp member
  cases settings <;> rfl

theorem recalls_start (plan : Plan) (hops : plan.hops ≠ []) (base : Nat) : (plan.custody σ base).Recalls := by
  refine ⟨?_, paced_start plan base, (clean_start plan base).remembers rfl rfl, fun _ => ⟨rfl, ?_⟩⟩
  · simpa [Plan.custody] using List.length_pos_iff.mpr hops
  · intro flag member
    simp only [flags, Plan.custody, List.map_map, List.mem_map, Function.comp_apply] at member
    obtain ⟨settings, -, rfl⟩ := member
    cases settings <;> rfl

section

variable {fault : Fault}

theorem Clean.lastFault_eq (clean : c.Clean) : c.lastFault = none :=
  List.findSome?_eq_none_iff.mpr clean

theorem FailedAt.lastFault_eq {hop : Nat} (failed : c.FailedAt hop fault) : c.lastFault = some fault := by
  obtain ⟨station, found, -, kept⟩ := failed.there
  cases last : c.lastFault with
  | none =>
    have unkept := List.findSome?_eq_none_iff.mp last station (List.mem_of_getElem? found)
    cases kept.symm.trans unkept
  | some other =>
    obtain ⟨holder, member, held⟩ := List.exists_of_findSome?_eq_some last
    obtain ⟨i, at_i⟩ := List.getElem?_of_mem member
    by_cases same : i = hop
    · subst same
      cases found.symm.trans at_i
      exact held.symm.trans kept
    · cases held.symm.trans (failed.others i holder same at_i)

theorem Remembers.lastFault_eq (remembers : c.Remembers) : c.lastFault = c.progress.fault? := by
  cases returned : c.progress.fault? with
  | none => exact (remembers.clean returned).lastFault_eq
  | some fault =>
    obtain ⟨hop, failed⟩ := remembers.failed fault returned
    exact failed.lastFault_eq

theorem hasFailed_eq (c : Custody σ) : c.hasFailed = c.lastFault.isSome := by
  rw [hasFailed, lastFault, List.isSome_findSome?]

end

end Custody
end Passage
