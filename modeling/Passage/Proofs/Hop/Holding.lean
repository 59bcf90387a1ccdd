import Passage.Hop.Custody
import Passage.Proofs.Hop.Stopping

namespace Passage

@[simp]
theorem socketsOf_nil : socketsOf [] = 0 := rfl

@[simp]
theorem socketsOf_cons (stream : Stream) (more : List Stream) :
    socketsOf (stream :: more) = stream.sockets + socketsOf more := rfl

@[simp]
theorem socketsOf_append (streams more : List Stream) :
    socketsOf (streams ++ more) = socketsOf streams + socketsOf more := by
  induction streams with
  | nil => simp
  | cons stream rest ih => simp [ih, Nat.add_assoc]

namespace Station

variable (station : Station)

@[simp]
theorem isStopped_call (next : Endpoint) : (station.call next).isStopped = station.isStopped := by
  cases station <;> rfl

@[simp]
theorem isStopped_stride (s : Stride) : (station.stride s).isStopped = station.isStopped := by
  rw [Bool.eq_iff_iff]
  cases station with
  | socks hop =>
    cases s <;> simp [stride, isStopped, Stride.onSocks, Socks.Hop.run, Socks.Hop.stopped_step]
  | ssh hop =>
    cases s <;> simp [stride, isStopped, Stride.onSsh, Ssh.Hop.run, Ssh.Hop.stopped_step]

@[simp]
theorem isStopped_sweep (runtime : Bool) : (station.sweep runtime).isStopped = station.isStopped := by
  cases station with
  | socks hop => rfl
  | ssh hop =>
    rw [Bool.eq_iff_iff]
    simp [sweep, isStopped, Ssh.Hop.stopped_step]

@[simp]
theorem isStopped_raise : station.raise.isStopped = true := by
  cases station <;> rfl

end Station

namespace Custody

variable {σ ι : Type} {c : Custody σ} {library : Ssh.Library σ ι}

/-- Which hops were stopped. -/
def flags (c : Custody σ) : List Bool :=
  c.stations.map (·.isStopped)

theorem map_modify_same {α β : Type} (g : α → β) {f : α → α} (same : ∀ a, g (f a) = g a) (l : List α) (i : Nat) :
    (l.modify i f).map g = l.map g := by
  apply List.ext_getElem?
  intro j
  simp only [List.getElem?_map, List.getElem?_modify]
  by_cases h : i = j <;> cases l[j]? <;> simp [h, same]

theorem getElem?_modify_of_some {α : Type} {l : List α} {i : Nat} {a : α} (found : l[i]? = some a) (f : α → α) :
    (l.modify i f)[i]? = some (f a) := by
  rw [List.getElem?_modify_eq, found]
  rfl

theorem mem_modify_cases {α : Type} {f : α → α} {l : List α} {i : Nat} {a : α} (member : a ∈ l.modify i f) :
    a ∈ l ∨ ∃ b ∈ l, a = f b := by
  obtain ⟨j, at_j⟩ := List.getElem?_of_mem member
  simp only [List.getElem?_modify, Option.map_eq_map, Option.map_eq_some_iff] at at_j
  obtain ⟨b, found, same⟩ := at_j
  have old : b ∈ l := List.mem_of_getElem? found
  split at same
  · exact .inr ⟨b, old, same.symm⟩
  · exact .inl (same ▸ old)

section

variable (c)

@[simp]
theorem flags_enter (hop : Nat) (grip : Grip) : (c.enter hop grip).flags = c.flags := by
  unfold enter
  split
  · exact map_modify_same _ (fun station => station.isStopped_call _) _ _
  · split <;> rfl

@[simp]
theorem stops_enter (hop : Nat) (grip : Grip) : (c.enter hop grip).stops = c.stops := by
  unfold enter
  split
  · rfl
  · split <;> rfl

@[simp]
theorem flags_finish (outcome : Option (Except Fault Unit)) : (c.finish outcome).flags = c.flags := rfl

@[simp]
theorem stops_finish (outcome : Option (Except Fault Unit)) : (c.finish outcome).stops = c.stops := rfl

@[simp]
theorem flags_goOn (hop : Nat) (result : Option (Except Fault Unit)) (stream : Option Stream) :
    (c.goOn hop result stream).flags = c.flags := by
  unfold goOn
  split <;> simp

@[simp]
theorem stops_goOn (hop : Nat) (result : Option (Except Fault Unit)) (stream : Option Stream) :
    (c.goOn hop result stream).stops = c.stops := by
  unfold goOn
  split <;> simp

/-- What a step of the connect comes to, if it comes to anything. -/
theorem stride_cases (s : Stride) :
    c.stride s = c ∨
      ∃ hop grip station, c.progress = .working hop grip ∧ c.stations[hop]? = some station ∧
        c.stride s =
          goOn { c with stations := c.stations.modify hop (·.stride s) } hop (station.stride s).result?
            (grip.yield? hop station) := by
  unfold stride
  split
  · next hop grip working =>
    split
    · next station found =>
      split
      · exact .inl rfl
      · exact .inr ⟨hop, grip, station, working, found, rfl⟩
    · exact .inl rfl
  · exact .inl rfl

@[simp]
theorem flags_stride (s : Stride) : (c.stride s).flags = c.flags := by
  rcases c.stride_cases s with same | ⟨hop, grip, station, _, found, moved⟩
  · rw [same]
  · rw [moved, flags_goOn]
    exact map_modify_same _ (fun station => station.isStopped_stride s) _ _

@[simp]
theorem stops_stride (s : Stride) : (c.stride s).stops = c.stops := by
  rcases c.stride_cases s with same | ⟨hop, grip, station, _, _, moved⟩
  · rw [same]
  · rw [moved, stops_goOn]

@[simp]
theorem flags_move (i : Nat) (become : Task σ → Option σ) : (c.move i become).flags = c.flags := by
  unfold move
  repeat' split
  all_goals rfl

@[simp]
theorem stops_move (i : Nat) (become : Task σ → Option σ) : (c.move i become).stops = c.stops := by
  unfold move
  repeat' split
  all_goals rfl

@[simp]
theorem flags_sweep (runtime : Bool) (hop : Nat) : (c.obey runtime (.sweep hop)).flags = c.flags :=
  map_modify_same _ (Station.isStopped_sweep · runtime) _ _

theorem flags_raise (runtime : Bool) (hop i : Nat) :
    (c.obey runtime (.raise hop)).flags[i]? = c.flags[i]?.map fun flag => flag || hop == i := by
  simp only [flags, obey, List.getElem?_map, List.getElem?_modify]
  by_cases same : hop = i <;> cases c.stations[i]? <;> simp [same]

/-- A flag that is still lowered was lowered, and the order was not to raise it. -/
theorem lowered_obey {runtime : Bool} {order : Order} {hop : Nat}
    (lowered : (c.obey runtime order).flags[hop]? = some false) :
    c.flags[hop]? = some false ∧ order ≠ .raise hop := by
  cases order with
  | raise other =>
    rw [flags_raise, Option.map_eq_some_iff] at lowered
    obtain ⟨flag, found, still⟩ := lowered
    rw [Bool.or_eq_false_iff, beq_eq_false_iff_ne] at still
    refine ⟨still.1 ▸ found, fun same => still.2 ?_⟩
    exact Order.raise.inj same
  | sweep other => exact ⟨by rwa [flags_sweep] at lowered, nofun⟩

end

theorem raise_mem_orders {stations : List Station} {hop : Nat} (within : hop < stations.length) :
    .raise hop ∈ orders stations := by
  have member : (stations[hop], hop) ∈ stations.zipIdx := by
    rw [List.mem_zipIdx_iff_getElem?]
    exact List.getElem?_eq_getElem within
  rw [orders, List.mem_flatMap]
  refine ⟨_, member, ?_⟩
  cases stations[hop] <;> simp

/-- Every stop has raised the flags that it no longer has to raise. -/
def Told (c : Custody σ) : Prop :=
  ∀ orders ∈ c.stops, ∀ hop, c.flags[hop]? = some false → .raise hop ∈ orders

theorem Told.same {c' : Custody σ} (told : c.Told) (stops : c'.stops = c.stops) (flags : c'.flags = c.flags) :
    c'.Told := by
  rw [Told, stops, flags]
  exact told

theorem Told.step (told : c.Told) (e : Event ι) : (c.step library e).Told := by
  cases e with
  | connect =>
    simp only [Custody.step]
    split
    · exact told.same (by simp) (by simp)
    · exact told
  | dialled =>
    simp only [Custody.step]
    repeat' split
    all_goals exact told
  | spawned =>
    simp only [Custody.step]
    repeat' split
    all_goals exact told
  | stride s => exact told.same (c.stops_stride s) (c.flags_stride s)
  | meet i news => exact told.same (c.stops_move i _) (c.flags_move i _)
  | poll i => exact told.same (c.stops_move i _) (c.flags_move i _)
  | leave i => exact told.same (c.stops_move i _) (c.flags_move i _)
  | abandon =>
    simp only [Custody.step]
    split
    · exact told
    · exact told
  | drop => exact told
  | stop =>
    intro left member hop lowered
    rcases List.mem_append.mp member with before | new
    · exact told left before hop lowered
    · rw [List.mem_singleton.mp new]
      have before : c.flags[hop]? = some false := lowered
      obtain ⟨within, -⟩ := List.getElem?_eq_some_iff.mp before
      exact raise_mem_orders (by simpa [flags] using within)
  | proceed i runtime =>
    simp only [Custody.step]
    split
    · next order rest found =>
      intro left member hop lowered
      obtain ⟨before, other⟩ := c.lowered_obey lowered
      rcases List.mem_or_eq_of_mem_set member with old | rfl
      · exact told left old hop before
      · have listed := told _ (List.mem_of_getElem? found) hop before
        exact (List.mem_cons.mp listed).resolve_left other.symm
    · exact told

theorem Told.run (told : c.Told) (history : List (Event ι)) : (c.run library history).Told := by
  induction history generalizing c with
  | nil => exact told
  | cons e rest ih => exact ih (told.step e)

def Progress.isFresh : Progress → Bool
  | .idle | .working _ .empty => true
  | _ => false

/-- Where streams are held, and how many sockets are open for them. -/
structure Holds (base : Nat) (c : Custody σ) : Prop where
  counted : c.sockets = base + socketsOf c.held
  single : socketsOf c.held ≤ 1
  fresh : c.progress.isFresh = true → c.held = []
  unkept : c.progress.isFinished = false → c.kept = none
  first : ∀ hop, c.progress = .working hop .empty → hop = 0
  grasp : ∀ hop i, c.progress = .working hop (.stream (.channel i)) → i < hop
  tasks : ∀ task ∈ c.tasks, task.hop < c.stations.length ∧ ∀ i, task.transport = .channel i → i < task.hop

theorem socketsOf_held (c : Custody σ) :
    socketsOf c.held =
      socketsOf c.progress.stream?.toList + socketsOf c.kept.toList + socketsOf (c.tasks.map (·.transport)) := by
  rw [held, socketsOf_append, socketsOf_append]

theorem held_eq_nil_iff (c : Custody σ) :
    c.held = [] ↔ c.progress.stream? = none ∧ c.kept = none ∧ c.tasks = [] := by
  simp [held]

section

variable {base : Nat}

theorem holds_start (plan : Plan) (base : Nat) : Holds base (plan.custody σ base) where
  counted := rfl
  single := Nat.zero_le 1
  fresh _ := rfl
  unkept _ := rfl
  first := nofun
  grasp := nofun
  tasks := nofun

/-- What happens at the hops themselves changes nothing of who holds what. -/
theorem Holds.restation (holds : c.Holds base) {stations : List Station}
    (same : stations.length = c.stations.length) : Holds base { c with stations } :=
  ⟨holds.counted, holds.single, holds.fresh, holds.unkept, holds.first, holds.grasp,
    fun task member => same ▸ holds.tasks task member⟩

theorem Holds.finish (holds : c.Holds base) (outcome : Option (Except Fault Unit)) :
    (c.finish outcome).Holds base := by
  have counted := holds.counted
  have single := holds.single
  have after : socketsOf (c.finish outcome).held =
      socketsOf c.kept.toList + socketsOf (c.tasks.map (·.transport)) := by
    rw [socketsOf_held]
    exact congrArg (· + _) (Nat.zero_add _)
  rw [socketsOf_held] at counted single
  refine ⟨?_, ?_, nofun, nofun, nofun, nofun, holds.tasks⟩
  · change c.sockets - _ = _
    omega
  · omega

/-- The connect turns to a hop, with something in its hands that stands for as many sockets as what it held. -/
theorem Holds.turn (holds : c.Holds base) {hop : Nat} {grip : Grip} (busy : c.progress.isFinished = false)
    (same : socketsOf grip.stream?.toList = socketsOf c.progress.stream?.toList)
    (blank : grip = .empty → c.held = [] ∧ hop = 0)
    (grasp : ∀ i, grip = .stream (.channel i) → i < hop) :
    Holds base { c with progress := .working hop grip } := by
  have after : socketsOf (held { c with progress := .working hop grip }) = socketsOf c.held := by
    rw [socketsOf_held, socketsOf_held, ← same]
    rfl
  refine ⟨after ▸ holds.counted, after ▸ holds.single, ?_, fun _ => holds.unkept busy, ?_, ?_, holds.tasks⟩
  · intro fresh
    cases grip with
    | empty =>
      obtain ⟨-, unkept, idle⟩ := c.held_eq_nil_iff.mp (blank rfl).1
      exact (held_eq_nil_iff _).mpr ⟨rfl, unkept, idle⟩
    | stream s => cases fresh
    | session => cases fresh
  · intro hop' here
    cases here
    exact (blank rfl).2
  · intro hop' i here
    cases here
    exact grasp i rfl

theorem Holds.handOut (holds : c.Holds base) {stream : Stream} (busy : c.progress.isFinished = false)
    (same : socketsOf [stream] = socketsOf c.progress.stream?.toList) (outcome : Option (Except Fault Unit)) :
    Holds base { c with progress := .finished outcome, kept := some stream } := by
  have after : socketsOf (held { c with progress := .finished outcome, kept := some stream }) = socketsOf c.held := by
    rw [socketsOf_held, socketsOf_held, holds.unkept busy, ← same, Option.toList_none, Nat.add_comm (socketsOf [stream])]
    rfl
  exact ⟨after ▸ holds.counted, after ▸ holds.single, nofun, nofun, nofun, nofun, holds.tasks⟩

theorem Holds.enter (holds : c.Holds base) {hop : Nat} {grip : Grip} (busy : c.progress.isFinished = false)
    (same : socketsOf grip.stream?.toList = socketsOf c.progress.stream?.toList)
    (blank : grip = .empty → c.held = [] ∧ hop = 0)
    (grasp : ∀ i, grip = .stream (.channel i) → i < hop) : (c.enter hop grip).Holds base := by
  unfold Custody.enter
  split
  · exact (holds.turn busy same blank grasp).restation (List.length_modify _ _ _)
  · split
    · next stream given =>
      rw [given] at same
      exact holds.handOut busy same _
    · exact holds.finish _

/-- What a hop gives back stands for what the connect held there, and comes from there or from before. -/
theorem Grip.yield?_eq_some {grip : Grip} {hop : Nat} {station : Station} {stream : Stream}
    (given : grip.yield? hop station = some stream) (grasp : ∀ i, grip = .stream (.channel i) → i < hop) :
    socketsOf [stream] = socketsOf grip.stream?.toList ∧ ∀ i, stream = .channel i → i < hop + 1 := by
  unfold Grip.yield? at given
  split at given
  · cases given
    exact ⟨rfl, fun i same => Nat.lt_succ_of_lt (grasp i (congrArg Grip.stream same))⟩
  · cases given
    refine ⟨rfl, fun i same => ?_⟩
    cases same
    exact Nat.lt_succ_self hop
  · cases given

theorem Holds.goOn (holds : c.Holds base) {hop : Nat} {grip : Grip} {station : Station}
    (working : c.progress = .working hop grip) (result : Option (Except Fault Unit)) :
    (c.goOn hop result (grip.yield? hop station)).Holds base := by
  unfold Custody.goOn
  split
  · exact holds.finish _
  · next stream given =>
    obtain ⟨same, below⟩ := Grip.yield?_eq_some given fun i here => holds.grasp hop i (here ▸ working)
    apply holds.enter
    · rw [working]
      rfl
    · rw [working]
      exact same
    · nofun
    · intro i here
      exact below i (Grip.stream.inj here)
  · exact holds

theorem Holds.stride (holds : c.Holds base) (s : Stride) : (c.stride s).Holds base := by
  rcases c.stride_cases s with same | ⟨hop, grip, station, working, _, moved⟩
  · rwa [same]
  · rw [moved]
    exact (holds.restation (List.length_modify _ _ _)).goOn working _

theorem socketsOf_eraseIdx {tasks : List (Task σ)} {i : Nat} {task : Task σ} (found : tasks[i]? = some task) :
    socketsOf (tasks.map (·.transport)) =
      task.transport.sockets + socketsOf ((tasks.eraseIdx i).map (·.transport)) := by
  induction tasks generalizing i with
  | nil => simp at found
  | cons first rest ih =>
    cases i with
    | zero =>
      cases found
      simp
    | succ i =>
      have later := ih found
      simp [later, Nat.add_left_comm]

theorem Holds.move (holds : c.Holds base) (i : Nat) (become : Task σ → Option σ) :
    (c.move i become).Holds base := by
  unfold Custody.move
  split
  · next task found =>
    split
    · next state _ =>
      have carried : (c.tasks.modify i fun task => { task with state }).map (·.transport) =
          c.tasks.map (·.transport) := by
        apply map_modify_same
        exact fun _ => rfl
      have after : held { c with tasks := c.tasks.modify i fun task => { task with state } } = c.held := by
        rw [held, held, carried]
      refine ⟨after ▸ holds.counted, after ▸ holds.single, fun fresh => after ▸ holds.fresh fresh, holds.unkept,
        holds.first, holds.grasp, ?_⟩
      intro other member
      rcases mem_modify_cases member with same | ⟨old, before, rfl⟩
      · exact holds.tasks other same
      · exact holds.tasks old before
    · have counted := holds.counted
      have single := holds.single
      rw [socketsOf_held, socketsOf_eraseIdx found] at counted single
      refine ⟨?_, ?_, ?_, holds.unkept, holds.first, holds.grasp, ?_⟩
      · rw [socketsOf_held]
        simp only [letGo, socketsOf_cons, socketsOf_nil]
        omega
      · rw [socketsOf_held]
        simp only [letGo]
        omega
      · intro fresh
        have idle := (c.held_eq_nil_iff.mp (holds.fresh fresh)).2.2
        rw [idle] at found
        cases found
      · exact fun other member => holds.tasks other (List.mem_of_mem_eraseIdx member)
  · exact holds

theorem Holds.dial (holds : c.Holds base) (blank : c.held = []) (hop : Nat) :
    Holds base { c with progress := .working hop (.stream .socket), sockets := c.sockets + 1 } := by
  obtain ⟨-, unkept, idle⟩ := c.held_eq_nil_iff.mp blank
  have counted := holds.counted
  have after : held { c with progress := .working hop (.stream .socket), sockets := c.sockets + 1 } = [.socket] := by
    simp [held, unkept, idle, Progress.stream?, Grip.stream?]
  rw [blank] at counted
  refine ⟨?_, ?_, nofun, fun _ => unkept, nofun, nofun, holds.tasks⟩
  · rw [after]
    exact congrArg (· + 1) counted
  · rw [after]
    exact Nat.le_refl 1

theorem Holds.spawn (holds : c.Holds base) {hop : Nat} {transport : Stream}
    (working : c.progress = .working hop (.stream transport)) (within : hop < c.stations.length) (state : σ) :
    Holds base { c with progress := .working hop .session, tasks := c.tasks ++ [{ hop, transport, state }] } := by
  have unkept : c.kept = none := holds.unkept (by rw [working]; rfl)
  have after : socketsOf (held
      { c with progress := .working hop .session, tasks := c.tasks ++ [{ hop, transport, state }] }) =
      socketsOf c.held := by
    rw [socketsOf_held, socketsOf_held, working]
    simp only [Progress.stream?, Grip.stream?, Option.toList_some, Option.toList_none, List.map_append,
      List.map_cons, List.map_nil, socketsOf_append, socketsOf_cons, socketsOf_nil]
    omega
  refine ⟨after ▸ holds.counted, after ▸ holds.single, nofun, fun _ => unkept, nofun, nofun, ?_⟩
  intro task member
  rcases List.mem_append.mp member with old | new
  · exact holds.tasks task old
  · rw [List.mem_singleton.mp new]
    refine ⟨within, fun i same => holds.grasp hop i ?_⟩
    rw [working, show transport = .channel i from same]

theorem Holds.drop (holds : c.Holds base) : Holds base { c.letGo c.kept.toList with kept := none } := by
  have counted := holds.counted
  have single := holds.single
  rw [socketsOf_held] at counted single
  have after : socketsOf (held { c.letGo c.kept.toList with kept := none }) =
      socketsOf c.progress.stream?.toList + socketsOf (c.tasks.map (·.transport)) := by
    rw [socketsOf_held]
    rfl
  refine ⟨?_, ?_, ?_, fun _ => rfl, holds.first, holds.grasp, holds.tasks⟩
  · rw [after]
    change c.sockets - _ = _
    omega
  · rw [after]
    omega
  · intro fresh
    obtain ⟨nothing, -, idle⟩ := c.held_eq_nil_iff.mp (holds.fresh fresh)
    exact (held_eq_nil_iff _).mpr ⟨nothing, rfl, idle⟩

theorem Holds.step (holds : c.Holds base) (e : Event ι) : (c.step library e).Holds base := by
  cases e with
  | connect =>
    simp only [Custody.step]
    split
    · next idle =>
      have blank : c.held = [] := holds.fresh (by rw [idle]; rfl)
      apply holds.enter
      · rw [idle]
        rfl
      · rw [idle]
        rfl
      · exact fun _ => ⟨blank, rfl⟩
      · nofun
    · exact holds
  | dialled =>
    simp only [Custody.step]
    split
    · next hop working =>
      split
      · have blank : c.held = [] := holds.fresh (by rw [working]; rfl)
        exact holds.dial blank hop
      · exact holds
    · exact holds
  | spawned =>
    simp only [Custody.step]
    split
    · next hop transport working =>
      split
      · next post found =>
        split
        · exact holds.spawn working (List.getElem?_eq_some_iff.mp found).1 library.start
        · exact holds
      · exact holds
    · exact holds
  | stride s => exact holds.stride s
  | meet i news => exact holds.move i _
  | poll i => exact holds.move i _
  | leave i => exact holds.move i _
  | abandon =>
    simp only [Custody.step]
    split
    · exact holds.finish _
    · exact holds
  | drop => exact holds.drop
  | stop => exact ⟨holds.counted, holds.single, holds.fresh, holds.unkept, holds.first, holds.grasp, holds.tasks⟩
  | proceed i runtime =>
    simp only [Custody.step]
    split
    · next order rest found =>
      have obeyed : (c.obey runtime order).Holds base := by
        cases order <;> exact holds.restation (List.length_modify _ _ _)
      exact ⟨obeyed.counted, obeyed.single, obeyed.fresh, obeyed.unkept, obeyed.first, obeyed.grasp, obeyed.tasks⟩
    · exact holds

theorem Holds.run (holds : c.Holds base) (history : List (Event ι)) : (c.run library history).Holds base := by
  induction history generalizing c with
  | nil => exact holds
  | cons e rest ih => exact ih (holds.step e)

end

end Custody
end Passage
