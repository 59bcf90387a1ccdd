import Passage.Proofs.Hop.Holding

namespace Passage

namespace Custody

variable {σ ι : Type} {c : Custody σ} {library : Ssh.Library σ ι} {base : Nat}

theorem run_append (before after : List (Event ι)) :
    c.run library (before ++ after) = (c.run library before).run library after :=
  List.foldl_append

theorem Told.all_stopped (told : c.Told) (stopped : c.stops ≠ []) (done : c.stops.flatten = []) {hop : Nat}
    {station : Station} (found : c.stations[hop]? = some station) : station.isStopped = true := by
  obtain ⟨left, member⟩ := List.exists_mem_of_ne_nil _ stopped
  have flag : c.flags[hop]? = some station.isStopped := by
    rw [flags, List.getElem?_map, found]
    rfl
  cases lowered : station.isStopped with
  | true => rfl
  | false =>
    have listed := told left member hop (lowered ▸ flag)
    rw [List.flatten_eq_nil_iff.mp done left member] at listed
    cases listed

theorem length_flatten_set {stops : List (List Order)} {i : Nat} {order : Order} {rest : List Order}
    (found : stops[i]? = some (order :: rest)) :
    (stops.set i rest).flatten.length + 1 = stops.flatten.length := by
  induction stops generalizing i with
  | nil => simp at found
  | cons left others ih =>
    cases i with
    | zero =>
      cases found
      simp
    | succ i =>
      have later := ih found
      simp only [List.set_cons_succ, List.flatten_cons, List.length_append] at later ⊢
      omega

/-- The stops come to their end by themselves, and touch nothing but the hops. -/
theorem exists_done (library : Ssh.Library σ ι) (c : Custody σ) :
    ∃ own : List (Event ι), (∀ e ∈ own, e.isOwn = true) ∧
      ∃ stations stops, c.run library own = { c with stations, stops } ∧ stops.flatten = [] ∧
        stops.length = c.stops.length := by
  generalize size : c.stops.flatten.length = n
  induction n generalizing c with
  | zero => exact ⟨[], nofun, c.stations, c.stops, rfl, List.eq_nil_of_length_eq_zero size, rfl⟩
  | succ n ih =>
    have more : 0 < c.stops.flatten.length := by omega
    obtain ⟨order, listed⟩ := List.exists_mem_of_length_pos more
    obtain ⟨left, member, listed⟩ := List.mem_flatten.mp listed
    obtain ⟨i, found⟩ := List.getElem?_of_mem member
    cases left with
    | nil => cases listed
    | cons next rest =>
      have proceeds : c.step library (.proceed i true) = { c.obey true next with stops := c.stops.set i rest } := by
        simp only [step, found]
      have fewer : (c.step library (.proceed i true)).stops.flatten.length = n := by
        have shorter := length_flatten_set found
        rw [proceeds]
        change (c.stops.set i rest).flatten.length = n
        omega
      obtain ⟨own, allOwn, stations, stops, after, done, same⟩ := ih (c.step library (.proceed i true)) fewer
      refine ⟨.proceed i true :: own, ?_, stations, stops, ?_, done, ?_⟩
      · intro e member
        rcases List.mem_cons.mp member with rfl | later
        · rfl
        · exact allOwn e later
      · change (c.step library (.proceed i true)).run library own = _
        rw [after, proceeds]
        cases next <;> rfl
      · rw [same, proceeds]
        exact List.length_set

theorem exists_highest {tasks : List (Task σ)} (running : tasks ≠ []) :
    ∃ (i : Nat) (task : Task σ), tasks[i]? = some task ∧ ∀ other ∈ tasks, other.hop ≤ task.hop := by
  cases highest : (tasks.map (·.hop)).max? with
  | none => exact absurd (List.map_eq_nil_iff.mp (List.max?_eq_none_iff.mp highest)) running
  | some hop =>
    obtain ⟨member, above⟩ := List.max?_eq_some_iff.mp highest
    obtain ⟨task, running, rfl⟩ := List.mem_map.mp member
    obtain ⟨i, found⟩ := List.getElem?_of_mem running
    exact ⟨i, task, found, fun other there => above _ (List.mem_map_of_mem there)⟩

theorem step_poll (reliable : library.Reliable) {i : Nat} {task : Task σ} (found : c.tasks[i]? = some task)
    (listens : library.listens task.state = true) (stopped : c.isCutOff task = true) :
    c.step library (.poll i) = { c with tasks := c.tasks.eraseIdx i }.letGo [task.transport] := by
  simp [step, move, found, listens, stopped, reliable.fail_ends task.state listens]

/-- The task of a stopped hop ends by itself when nobody holds its channel. -/
theorem exists_cut_off (reliable : library.Reliable) {i : Nat} {task : Task σ} (found : c.tasks[i]? = some task)
    (stopped : c.isCutOff task = true) (unheld : Stream.channel task.hop ∉ c.held) :
    ∃ own : List (Event ι), (∀ e ∈ own, e.isOwn = true) ∧
      c.run library own = { c with tasks := c.tasks.eraseIdx i }.letGo [task.transport] := by
  cases listens : library.listens task.state with
  | true => exact ⟨[.poll i], by simp [Event.isOwn], step_poll reliable found listens stopped⟩
  | false =>
    cases left : library.leave task.state with
    | none =>
      refine ⟨[.leave i], by simp [Event.isOwn], ?_⟩
      simp [run, step, move, found, listens, unheld, left]
    | some state =>
      -- It waited for a reader: now it turns to its transport again.
      let turned : Custody σ := { c with tasks := c.tasks.modify i fun task => { task with state } }
      have leaves : c.step library (.leave i) = turned := by
        simp [step, move, found, listens, unheld, left, turned]
      have found' : turned.tasks[i]? = some { task with state } := by
        simp [turned, found]
      have polls := step_poll reliable found' (reliable.leave_listens task.state state listens left) stopped
      refine ⟨[.leave i, .poll i], by simp [Event.isOwn], ?_⟩
      change (c.step library (.leave i)).step library (.poll i) = _
      rw [leaves, polls]
      simp only [turned, List.eraseIdx_modify_of_eq]

/-- When the connect is over and its stream is closed, only tasks hold anything. -/
theorem held_eq (finished : c.progress.isFinished = true) (unkept : c.kept = none) :
    c.held = c.tasks.map (·.transport) := by
  rw [held, unkept]
  cases progress : c.progress with
  | finished outcome => rfl
  | idle => rw [progress] at finished; cases finished
  | working hop grip => rw [progress] at finished; cases finished

/-- The tasks end by themselves once every hop is stopped, the connect is over and its stream is closed. -/
theorem exists_idle (reliable : library.Reliable) (holds : c.Holds base)
    (stopped : ∀ (hop : Nat) (station : Station), c.stations[hop]? = some station → station.isStopped = true)
    (finished : c.progress.isFinished = true) (unkept : c.kept = none) :
    ∃ own : List (Event ι), (∀ e ∈ own, e.isOwn = true) ∧ ∃ sockets,
      c.run library own = { c with tasks := [], sockets } := by
  generalize size : c.tasks.length = n
  induction n generalizing c with
  | zero =>
    have idle := List.eq_nil_of_length_eq_zero size
    exact ⟨[], nofun, c.sockets, by rw [← idle]; rfl⟩
  | succ n ih =>
    have running : c.tasks ≠ [] := List.ne_nil_of_length_pos (size ▸ Nat.succ_pos n)
    obtain ⟨i, task, found, highest⟩ := exists_highest running
    have member := List.mem_of_getElem? found
    have hop := List.getElem?_eq_getElem (holds.tasks task member).1
    have cut : c.isCutOff task = true := by
      rw [isCutOff, hop]
      exact stopped task.hop _ hop
    have unheld : Stream.channel task.hop ∉ c.held := by
      rw [held_eq finished unkept]
      intro there
      obtain ⟨other, there, same⟩ := List.mem_map.mp there
      have later := (holds.tasks other there).2 task.hop same
      exact Nat.not_lt_of_le (highest other there) later
    obtain ⟨first, ownFirst, ended⟩ := exists_cut_off reliable found cut unheld
    have fewer : (c.run library first).tasks.length = n := by
      have within := (List.getElem?_eq_some_iff.mp found).1
      rw [ended]
      change (c.tasks.eraseIdx i).length = n
      rw [List.length_eraseIdx_of_lt within, size, Nat.add_sub_cancel]
    obtain ⟨rest, ownRest, sockets, after⟩ :=
      ih (holds.run first) (ended ▸ stopped) (ended ▸ finished) (ended ▸ unkept) fewer
    refine ⟨first ++ rest, ?_, sockets, ?_⟩
    · intro e member
      exact (List.mem_append.mp member).elim (ownFirst e) (ownRest e)
    · rw [run_append, after, ended]
      rfl

theorem Quiescent.run (quiet : Quiescent library c) {own : List (Event ι)} (allOwn : ∀ e ∈ own, e.isOwn = true) :
    c.run library own = c := by
  induction own with
  | nil => rfl
  | cons e rest ih =>
    change (c.step library e).run library rest = c
    rw [quiet e (allOwn e List.mem_cons_self)]
    exact ih fun e member => allOwn e (List.mem_cons_of_mem _ member)

theorem stride_finished (finished : c.progress.isFinished = true) (s : Stride) : c.stride s = c := by
  unfold stride
  cases progress : c.progress with
  | finished outcome => rfl
  | idle => rfl
  | working hop grip => rw [progress] at finished; cases finished

theorem move_idle (idle : c.tasks = []) (i : Nat) (become : Task σ → Option σ) : c.move i become = c := by
  unfold move
  simp [idle]

theorem quiescent_of_idle (finished : c.progress.isFinished = true) (done : c.stops.flatten = []) (idle : c.tasks = []) :
    Quiescent library c := by
  intro e own
  cases e with
  | stride s => exact stride_finished finished s
  | poll i | leave i => exact move_idle idle i _
  | proceed i runtime =>
    simp only [step]
    split
    · next order rest found =>
      have nothing := List.flatten_eq_nil_iff.mp done _ (List.mem_of_getElem? found)
      cases nothing
    · rfl
  | connect | dialled | spawned | meet _ _ | abandon | drop | stop => cases own

theorem Holds.sockets_eq (holds : c.Holds base) (finished : c.progress.isFinished = true) (unkept : c.kept = none)
    (idle : c.tasks = []) : c.sockets = base := by
  rw [holds.counted, held_eq finished unkept, idle]
  rfl

theorem Quiescent.sockets_eq (quiet : Quiescent library c) (reliable : library.Reliable) (holds : c.Holds base)
    (told : c.Told) (finished : c.progress.isFinished = true) (stopped : c.stops ≠ []) (unkept : c.kept = none) :
    c.sockets = base := by
  obtain ⟨own, allOwn, stations, stops, after, done, -⟩ := exists_done library c
  have stopsDone : c.stops.flatten = [] := by
    have same := congrArg Custody.stops ((quiet.run allOwn).symm.trans after)
    exact same ▸ done
  obtain ⟨own, allOwn, sockets, after⟩ :=
    exists_idle reliable holds (fun _ _ => told.all_stopped stopped stopsDone) finished unkept
  have idle : c.tasks = [] := congrArg Custody.tasks ((quiet.run allOwn).symm.trans after)
  exact holds.sockets_eq finished unkept idle

/-- Once the connect is over, a stop was made and the stream is closed, all comes to rest by itself. -/
theorem exists_rest (reliable : library.Reliable) (holds : c.Holds base) (told : c.Told)
    (finished : c.progress.isFinished = true) (stopped : c.stops ≠ []) (unkept : c.kept = none) :
    ∃ own : List (Event ι), (∀ e ∈ own, e.isOwn = true) ∧
      Quiescent library (c.run library own) ∧ (c.run library own).sockets = base := by
  obtain ⟨first, ownFirst, stations, stops, carried, done, same⟩ := exists_done library c
  have told' : Told (c.run library first) := told.run first
  have stopped' : (c.run library first).stops ≠ [] := by
    rw [carried]
    exact List.ne_nil_of_length_pos (same ▸ List.length_pos_iff.mpr stopped)
  have done' : (c.run library first).stops.flatten = [] := by rw [carried]; exact done
  have finished' : (c.run library first).progress.isFinished = true := by rw [carried]; exact finished
  have unkept' : (c.run library first).kept = none := by rw [carried]; exact unkept
  obtain ⟨rest, ownRest, sockets, ended⟩ :=
    exists_idle reliable (holds.run first) (fun _ _ => told'.all_stopped stopped' done') finished' unkept'
  have holds' : Holds base ((c.run library first).run library rest) := (holds.run first).run rest
  refine ⟨first ++ rest, ?_, ?_⟩
  · intro e member
    exact (List.mem_append.mp member).elim (ownFirst e) (ownRest e)
  · rw [run_append]
    rw [ended] at holds' ⊢
    exact ⟨quiescent_of_idle finished' done' rfl, holds'.sockets_eq finished' unkept' rfl⟩

end Custody

namespace Ssh

/-- What may come to the task of a session. -/
inductive News where
  | data
  | read
  | close

/-- A library whose tasks keep the messages that are not read yet, and turn away from their transports when there
are too many. -/
def Library.buffered (limit : Nat) : Library Nat News where
  start := 0
  listens unread := unread ≤ limit
  meet unread
    | .data => some (unread + 1)
    | .read => some (unread - 1)
    | .close => none
  fail _ := none
  leave _ := some 0

theorem Library.buffered_reliable (limit : Nat) : (Library.buffered limit).Reliable where
  fail_ends _ _ := rfl
  leave_listens s s' _ left := by
    cases left
    simp [Library.buffered]

end Ssh

namespace Custody

variable {σ ι : Type}

/-- Of a chain at most one socket is open at any time, its first hop's. Once its connect is over, a stop was made
and the stream that was handed out is closed, the socket is closed too when all has come to rest; and to rest it
comes by itself. -/
theorem sockets_restored (library : Ssh.Library σ ι) (reliable : library.Reliable) (plan : Plan) (base : Nat)
    (history : List (Event ι)) :
    let c := (plan.custody σ base).run library history
    (base ≤ c.sockets ∧ c.sockets ≤ base + 1) ∧
    (∀ hop, c.progress = .working hop .empty → hop = 0) ∧
    (c.progress.isFinished = true → c.stops ≠ [] → c.kept = none →
      (Quiescent library c → c.sockets = base) ∧
      ∃ own : List (Event ι), (∀ e ∈ own, e.isOwn = true) ∧
        Quiescent library (c.run library own) ∧ (c.run library own).sockets = base) := by
  intro c
  have holds : Holds base c := (holds_start plan base).run history
  have told : c.Told := Told.run (fun left member => by cases member) history
  have counted := holds.counted
  have single := holds.single
  refine ⟨⟨by omega, by omega⟩, holds.first, fun finished stopped unkept => ⟨fun quiet => ?_, ?_⟩⟩
  · exact quiet.sockets_eq reliable holds told finished stopped unkept
  · exact exists_rest reliable holds told finished stopped unkept

/-- A stop finds the connect at the login of the second hop, where the task of its session holds the socket. -/
theorem sockets_restored_login :
    let library := Ssh.Library.buffered 100
    let plan : Plan :=
      { hops :=
          [.socks { host := "proxy", port := 1080 },
            .ssh { host := "bastion", username := "deploy", privateKey := "key" }]
        target := ⟨"db", 5432⟩ }
    let before : List (Event Ssh.News) :=
      [.connect, .stride .look, .dialled, .stride .succeed, .stride .look, .spawned]
    let after : List (Event Ssh.News) :=
      [.stop, .proceed 0 true, .stride .wait, .proceed 0 true, .proceed 0 true, .stride .look, .poll 0]
    let c := (plan.custody Nat 3).run library (before ++ after)
    ((plan.custody Nat 3).run library before).sockets = 4 ∧ library.Reliable ∧ c.progress.isFinished = true ∧
      c.stops ≠ [] ∧ c.kept = none ∧ Quiescent library c ∧ c.sockets = 3 := by
  intro library plan before after c
  have reliable : library.Reliable := Ssh.Library.buffered_reliable 100
  have finished : c.progress.isFinished = true := by decide +kernel
  have stopped : c.stops ≠ [] := by decide +kernel
  have unkept : c.kept = none := by decide +kernel
  have done : c.stops.flatten = [] := by decide +kernel
  have idle : c.tasks = [] := List.isEmpty_iff.mp (by decide +kernel)
  have quiet : Quiescent library c := quiescent_of_idle finished done idle
  have restored := sockets_restored library reliable plan 3 (before ++ after)
  exact ⟨by decide +kernel, reliable, finished, stopped, unkept, quiet, (restored.2.2 finished stopped unkept).1 quiet⟩

end Custody
end Passage
