import Passage.Proofs.Entry.Relaying

namespace Passage.Listener

/-- Whether an event is a read of the given session. -/
def Event.isRead (session : Nat) : Event → Bool
  | .read i => i = session
  | _ => false

def Stage.isOpening : Stage → Bool
  | .opening _ => true
  | _ => false

/-- No answer comes from the chain of a session. -/
structure Unanswered (session : Nat) (history : List Event) : Prop where
  up : .chainUp session ∉ history
  down : ∀ fault, .chainDown session fault ∉ history

namespace Session

/-- The session is over, and so is its chain, without a failure. -/
structure Left (s : Session) : Prop where
  ended : s.stage = .closing ∨ s.stage = .closed
  stopped : s.chainStopped = true
  unfailed : s.chainFault = none
  unrelayed : s.relayed = []

/-- The client has hung up, and the chain is still being connected. `size` is how much the client had sent. -/
structure Waits (size : Nat) (s : Session) : Prop where
  gone : s.hungUp = true
  opening : ∃ held, s.stage = .opening held ∧ held.length + s.unread.length = size
  unstopped : s.chainStopped = false
  unfailed : s.chainFault = none
  unrelayed : s.relayed = []

variable {s : Session} {e : Event} {size : Nat}

theorem Left.meet (left : s.Left) (told : Bool) (e : Event) : (s.meet told e).Left := by
  obtain ⟨ended, stopped, unfailed, unrelayed⟩ := left
  cases e with
  | send i data =>
    simp only [Session.meet, send]
    split <;> exact ⟨ended, stopped, unfailed, unrelayed⟩
  | begin | take | accept | dropSessions | stop | hangUp => exact ⟨ended, stopped, unfailed, unrelayed⟩
  | read | chainUp | chainDown | relayEnds | notice | record | close =>
    rcases ended with stage | stage <;> cases told <;> constructor <;>
      simp [Session.meet, Session.read, chainUp, chainDown, relayEnds, cancel, close, stage, stopped, unfailed,
        unrelayed]

theorem Waits.cancel (waits : s.Waits size) : s.cancel.Left := by
  obtain ⟨held, stage, -⟩ := waits.opening
  have ends : s.cancel = s.finish .closing := by
    simp [Session.cancel, stage]
  rw [ends]
  exact ⟨.inl rfl, rfl, waits.unfailed, waits.unrelayed⟩

/-- What the chain, the reads and a cancellation have no part in leaves the session as it is. -/
theorem Waits.meet (waits : s.Waits size) (told : Bool) (up : ∀ i, e ≠ .chainUp i)
    (down : ∀ i fault, e ≠ .chainDown i fault) (unread : ∀ i, e ≠ .read i) (alone : ∀ i, e ≠ .notice i) :
    (s.meet told e).Waits size ∧ (s.meet told e).unread = s.unread := by
  obtain ⟨held, stage, total⟩ := waits.opening
  cases e with
  | chainUp i => exact absurd rfl (up i)
  | chainDown i fault => exact absurd rfl (down i fault)
  | read i => exact absurd rfl (unread i)
  | notice i => exact absurd rfl (alone i)
  | begin | take | accept | dropSessions | stop => exact ⟨waits, rfl⟩
  | hangUp => exact ⟨⟨rfl, ⟨held, stage, total⟩, waits.unstopped, waits.unfailed, waits.unrelayed⟩, rfl⟩
  | send => simpa [Session.meet, send, waits.gone] using waits
  | relayEnds | record | close => simpa [Session.meet, relayEnds, close, stage] using waits

/-- A read finds the client gone, or goes on with what it left, or is not made since too much is held. -/
theorem Waits.read (waits : s.Waits size) :
    size < earlyLimit ∧ s.read.Left ∨
      s.read.Waits size ∧ (size < earlyLimit → s.read.unread.length < s.unread.length) := by
  obtain ⟨held, stage, total⟩ := waits.opening
  by_cases full : earlyLimit ≤ held.length
  · have same : s.read = s := by
      simp [Session.read, stage, full]
    rw [same]
    exact .inr ⟨waits, fun below => by omega⟩
  cases left : s.unread with
  | nil =>
    have ends : s.read = s.finish .closing := by
      simp [Session.read, stage, full, left, waits.gone]
    rw [left, List.length_nil] at total
    rw [ends]
    exact .inl ⟨by omega, .inl rfl, rfl, waits.unfailed, waits.unrelayed⟩
  | cons byte rest =>
    have goesOn : s.read =
        { s with stage := .opening (held ++ s.unread.take readSize), unread := s.unread.drop readSize } := by
      simp [Session.read, stage, full, left]
    have positive : 0 < readSize := by decide
    rw [goesOn]
    refine .inr ⟨⟨waits.gone, ⟨_, rfl, ?_⟩, waits.unstopped, waits.unfailed, waits.unrelayed⟩, fun _ => ?_⟩
    · rw [List.length_append, Nat.add_assoc, ← List.length_append, List.take_append_drop, total]
    · rw [left, List.length_drop, List.length_cons]
      omega

/-- If not too much is held, every read brings the session closer to its end. -/
theorem Waits.meet_below {i : Nat} (waits : s.Waits size) (below : size < earlyLimit) (told : Bool)
    (up : ∀ i, e ≠ .chainUp i) (down : ∀ i fault, e ≠ .chainDown i fault) :
    (s.meet told e).Left ∨
      (s.meet told e).Waits size ∧ (s.meet told e).unread.length + (if e.isRead i then 1 else 0) ≤ s.unread.length := by
  cases e with
  | read j =>
    rcases waits.read with ⟨-, left⟩ | ⟨still, fewer⟩
    · exact .inl left
    · refine .inr ⟨still, ?_⟩
      have less := fewer below
      change s.read.unread.length + _ ≤ _
      split <;> omega
  | notice j =>
    cases told with
    | true => exact .inl waits.cancel
    | false => exact .inr ⟨waits, Nat.le_refl _⟩
  | _ =>
    obtain ⟨still, same⟩ := waits.meet told up down nofun nofun
    exact .inr ⟨still, by simp [same, Event.isRead]⟩

/-- A session that stopped its chain, or found that it failed, no longer opens it. -/
def Pending (s : Session) : Prop :=
  s.chainStopped = false ∧ s.chainFault = none ∨ s.stage.isOpening = false

theorem Pending.meet (pending : s.Pending) (told : Bool) (e : Event) : (s.meet told e).Pending := by
  cases e with
  | begin | take | accept | dropSessions | stop | hangUp => exact pending
  | send i data =>
    simp only [Session.meet, send]
    split <;> exact pending
  | read =>
    simp only [Session.meet, Session.read]
    split
    · next held stage =>
      have nothing := pending.resolve_right (by simp [stage, Stage.isOpening])
      repeat' split
      · exact pending
      · exact .inr rfl
      · exact pending
      · exact .inl nothing
    · exact pending
    · exact pending
  | chainDown =>
    simp only [Session.meet, chainDown, finish]
    repeat' split
    all_goals first | exact pending | exact .inr rfl
  | chainUp | relayEnds | notice | record | close =>
    simp only [Session.meet, chainUp, relayEnds, Session.cancel, close, finish]
    repeat' split
    all_goals first | exact pending | exact .inr rfl

end Session

/-- What is on record is what the chain of the session it names failed with. -/
structure Explained (l : Listener) : Prop where
  failing : ∀ s ∈ l.sessions, ∀ fault, s.stage = .failing fault → s.chainFault = some fault
  recorded : ∀ r, l.slot = some r →
    ∃ s, l.sessions[r.session]? = some s ∧ s.stage.isOver = true ∧ s.chainFault = some r.fault

section

variable {l l' : Listener} {slot : Option Recorded} {stage stage' : Stage} {old new : Option Fault}

theorem Turn.explained (turn : Turn slot stage old stage' new)
    (before : ∀ fault, stage = .failing fault → old = some fault) :
    ∀ fault, stage' = .failing fault → new = some fault := by
  rintro fault rfl
  cases turn with
  | same => exact before fault rfl
  | breaks => rfl

theorem Turn.ended (turn : Turn slot stage old stage' new) (ended : stage.isOver = true) :
    stage'.isOver = true ∧ new = old := by
  cases turn with
  | same => exact ⟨ended, rfl⟩
  | holds | up | leaves | ends | breaks | fails => cases ended
  | records | closes => exact ⟨rfl, rfl⟩

theorem Explained.advances (explained : l.Explained) (h : Advances l l') : l'.Explained where
  failing s' member fault stage := by
    obtain ⟨i, found⟩ := List.getElem?_of_mem member
    rcases h.sessions i s' found with ⟨-, -, new, -⟩ | ⟨s, hs, follows⟩
    · cases new.symm.trans stage
    · exact follows.turn.explained (explained.failing s (List.mem_of_getElem? hs)) fault stage
  recorded r slot := by
    have before : ∃ s, l.sessions[r.session]? = some s ∧ s.stage.isOver = true ∧ s.chainFault = some r.fault := by
      rcases h.slot with same | ⟨-, i, s, fault, found, stage, recorded⟩
      · exact explained.recorded r (same ▸ slot)
      · cases recorded.symm.trans slot
        have ended : s.stage.isOver = true := by rw [stage]; rfl
        exact ⟨s, found, ended, explained.failing s (List.mem_of_getElem? found) fault stage⟩
    obtain ⟨s, found, ended, chainFault⟩ := before
    obtain ⟨s', found', follows⟩ := h.exists_follows found
    obtain ⟨ended', same⟩ := follows.turn.ended ended
    exact ⟨s', found', ended', same.trans chainFault⟩

theorem Explained.step (explained : l.Explained) (e : Event) : (l.step e).Explained := by
  cases e with
  | begin | take => exact ⟨explained.failing, nofun⟩
  | _ => exact explained.advances (step_advances l nofun nofun)

theorem explained_run (history : List Event) : (run {} history).Explained := by
  have kept : ∀ l : Listener, l.Explained → (l.run history).Explained := by
    induction history with
    | nil => exact fun _ explained => explained
    | cons e rest ih => exact fun l explained => ih _ (explained.step e)
  exact kept {} ⟨fun s member => absurd member List.not_mem_nil, nofun⟩

end

/-- A session whose chain has not failed has put nothing on record. -/
theorem unrecorded {history : List Event} {i : Nat} {s : Session} (found : (run {} history).sessions[i]? = some s)
    (unfailed : s.chainFault = none) : ∀ r, (run {} history).slot = some r → r.session ≠ i := by
  rintro r slot rfl
  obtain ⟨s', found', -, failed⟩ := (explained_run history).recorded r slot
  cases found'.symm.trans found
  cases failed.symm.trans unfailed

section

variable {l : Listener} {i size : Nat} {s : Session} {before more : List Event}

theorem waits_of_hungUp {held : List UInt8} (found : (run {} before).sessions[i]? = some s)
    (opening : s.stage = .opening held) (gone : s.hungUp = true) : s.Waits (sent i before).length := by
  obtain ⟨unrelayed, pending⟩ := ((keeps_run before).sessions i s found).opening held opening
  have early : s.Pending := forall_run_of_kept (l := {}) (fun _ _ => .inl ⟨rfl, rfl⟩)
    (fun e _ _ s told (pending : s.Pending) => pending.meet told e) (fun s hs => by simp at hs) found
  obtain ⟨unstopped, unfailed⟩ := early.resolve_right (by simp [opening, Stage.isOpening])
  exact ⟨gone, ⟨held, opening, by rw [← pending, List.length_append]⟩, unstopped, unfailed, unrelayed⟩

theorem Unanswered.of_cons {e : Event} (unanswered : Unanswered i (e :: more)) : Unanswered i more :=
  ⟨fun later => unanswered.up (.tail _ later), fun fault later => unanswered.down fault (.tail _ later)⟩

theorem Unanswered.own {e : Event} (unanswered : Unanswered i more) (member : e ∈ more) (own : e.session? = some i) :
    (∀ j, e ≠ .chainUp j) ∧ ∀ j fault, e ≠ .chainDown j fault := by
  constructor
  · rintro j rfl
    cases own
    exact unanswered.up member
  · rintro j fault rfl
    cases own
    exact unanswered.down fault member

/-- A session that holds too much waits on, unless it is told to end. -/
theorem exists_waits (found : l.sessions[i]? = some s) (waits : s.Waits size) (full : earlyLimit ≤ size)
    (unanswered : Unanswered i more) (alone : .notice i ∉ more) :
    ∃ s', (l.run more).sessions[i]? = some s' ∧ s'.Waits size := by
  refine exists_run_of_kept (P := (·.Waits size)) (fun e member own s told waits => ?_) found waits
  obtain ⟨up, down⟩ := unanswered.own member own
  cases e with
  | read => exact waits.read.elim (fun left => absurd left.1 (Nat.not_lt_of_le full)) And.left
  | notice j =>
    cases own
    exact absurd member alone
  | _ => exact (waits.meet told up down nofun nofun).1

/-- As often as it reads, a session that holds less comes closer to its end. -/
theorem exists_left (found : l.sessions[i]? = some s) (waits : s.Waits size) (below : size < earlyLimit)
    (unanswered : Unanswered i more) (reads : s.unread.length < more.countP (·.isRead i)) :
    ∃ s', (l.run more).sessions[i]? = some s' ∧ s'.Left := by
  induction more generalizing l s with
  | nil => exact absurd reads (Nat.not_lt_zero _)
  | cons e rest ih =>
    have next := getElem?_step_of_some found e
    rw [List.countP_cons] at reads
    by_cases own : e.session? = some i
    · rw [if_pos own] at next
      obtain ⟨up, down⟩ := unanswered.own (.head _) own
      rcases waits.meet_below (i := i) below (l.isCancelled s) up down with left | ⟨still, fewer⟩
      · have ends : ∃ s', ((l.step e).run rest).sessions[i]? = some s' ∧ s'.Left :=
          exists_run_of_kept (P := Session.Left) (fun e _ _ s told left => left.meet told e) next left
        exact ends
      · exact ih next still unanswered.of_cons (by omega)
    · rw [if_neg own] at next
      have other : e.isRead i = false := by
        cases e with
        | read j => simpa [Event.isRead, Event.session?] using own
        | _ => rfl
      rw [other] at reads
      exact ih next waits unanswered.of_cons reads

/-- Reads alone are no answer, and tell nobody to end. -/
theorem reads_unanswered (i n : Nat) :
    let reads : List Event := List.replicate n (.read i)
    Unanswered i reads ∧ .notice i ∉ reads ∧ reads.countP (·.isRead i) = n := by
  refine ⟨⟨?_, fun fault => ?_⟩, ?_, ?_⟩
  · simp [List.mem_replicate]
  · simp [List.mem_replicate]
  · simp [List.mem_replicate]
  · simp [List.countP_replicate, Event.isRead]

theorem exists_closed (found : l.sessions[i]? = some s) (left : s.Left) :
    ∃ s', (l.step (.close i)).sessions[i]? = some s' ∧ s'.stage = .closed ∧ s'.Left := by
  have next : (l.step (.close i)).sessions[i]? = some s.close := by
    simpa [Event.session?, Session.meet] using getElem?_step_of_some found (.close i)
  have closed : s.close.stage = .closed := by
    rcases left.ended with stage | stage <;> simp [Session.close, stage]
  exact ⟨_, next, closed, left.meet false (.close i)⟩

end

/-- A client that hangs up before the chain is up ends its session without an answer from the chain, and without
being told to end, exactly if it had sent less than the limit of what is held. Then the session only has to read
what was sent: its chain is stopped, its client's socket is closed, and nothing is on record of it. -/
theorem hungUp_ends_iff {before : List Event} {i : Nat} {s : Session} {held : List UInt8}
    (found : (run {} before).sessions[i]? = some s) (opening : s.stage = .opening held) (gone : s.hungUp = true) :
    ((∃ more, Unanswered i more ∧ .notice i ∉ more ∧
        ∃ s', (run {} (before ++ more)).sessions[i]? = some s' ∧ s'.stage.isOver = true) ↔
      (sent i before).length < 64 * 1024) ∧
    ((sent i before).length < 64 * 1024 →
      ∀ more, Unanswered i more → s.unread.length < more.countP (·.isRead i) →
        let after := run {} (before ++ more ++ [.close i])
        (∃ s', after.sessions[i]? = some s' ∧ s'.stage = .closed ∧ s'.chainStopped = true ∧ s'.chainFault = none ∧
          s'.relayed = []) ∧
        ∀ r, after.slot = some r → r.session ≠ i) := by
  have waits := waits_of_hungUp found opening gone
  have ends (below : (sent i before).length < 64 * 1024) {more : List Event} (unanswered : Unanswered i more)
      (reads : s.unread.length < more.countP (·.isRead i)) :
      ∃ s', (run {} (before ++ more)).sessions[i]? = some s' ∧ s'.Left := by
    rw [run_append]
    exact exists_left found waits below unanswered reads
  refine ⟨⟨?_, fun below => ?_⟩, fun below more unanswered reads => ?_⟩
  · rintro ⟨more, unanswered, alone, s', found', ended⟩
    apply Nat.lt_of_not_le
    intro full
    obtain ⟨still, at_i, waits'⟩ := exists_waits found waits full unanswered alone
    rw [run_append] at found'
    cases at_i.symm.trans found'
    obtain ⟨held', stage, -⟩ := waits'.opening
    rw [stage] at ended
    cases ended
  · obtain ⟨unanswered, alone, count⟩ := reads_unanswered i (s.unread.length + 1)
    obtain ⟨s', found', left⟩ := ends below unanswered (by omega)
    refine ⟨_, unanswered, alone, s', found', ?_⟩
    rcases left.ended with stage | stage <;> rw [stage] <;> rfl
  · intro after
    obtain ⟨s₁, found₁, left₁⟩ := ends below unanswered reads
    obtain ⟨s', found', closed, left⟩ := exists_closed found₁ left₁
    have at_end : after.sessions[i]? = some s' := by
      rw [← found']
      exact congrArg (·.sessions[i]?) (run_append {} (before ++ more) [.close i])
    exact ⟨⟨s', at_end, closed, left.stopped, left.unfailed, left.unrelayed⟩, unrecorded at_end left.unfailed⟩

/-- A client sends three bytes and leaves, while its proxy does not answer. -/
theorem hungUp_ends_soon :
    let before : List Event := [.accept, .send 0 [1, 2, 3], .hangUp 0]
    let more : List Event := [.read 0, .read 0, .read 0, .read 0]
    let after := run {} (before ++ more ++ [.close 0])
    Unanswered 0 more ∧
      (∃ s, after.sessions[0]? = some s ∧ s.stage = .closed ∧ s.chainStopped = true ∧ s.chainFault = none ∧
        s.relayed = []) ∧
      ∀ r, after.slot = some r → r.session ≠ 0 := by
  intro before more after
  have unanswered : Unanswered 0 more := ⟨by simp [more], by simp [more]⟩
  have below : (sent 0 before).length < 64 * 1024 := by decide
  exact ⟨unanswered, (hungUp_ends_iff rfl rfl rfl).2 below more unanswered (by decide)⟩

/-- A client sends as much as may be held, and leaves. Its session waits for the chain, however often it tries to
read. -/
theorem hangUp_unseen :
    let before : List Event := [.accept, .send 0 (List.replicate (64 * 1024) 0), .hangUp 0]
    (∃ s, (run {} before).sessions[0]? = some s ∧ s.hungUp = true ∧ s.stage = .opening []) ∧
      ∀ more, Unanswered 0 more → .notice 0 ∉ more →
        ∃ s, (run {} (before ++ more)).sessions[0]? = some s ∧ s.hungUp = true ∧ (∃ held, s.stage = .opening held) ∧
          s.chainStopped = false := by
  intro before
  let left : Session :=
    { generation := 0, attempt := 0, unread := List.replicate (64 * 1024) 0, hungUp := true }
  have found : (run {} before).sessions[0]? = some left := rfl
  have total : ([] : List UInt8).length + left.unread.length = 64 * 1024 :=
    (Nat.zero_add _).trans List.length_replicate
  have waits : left.Waits (64 * 1024) := ⟨rfl, ⟨[], rfl, total⟩, rfl, rfl, rfl⟩
  refine ⟨⟨left, found, rfl, rfl⟩, fun more unanswered alone => ?_⟩
  obtain ⟨s, found', waits'⟩ := exists_waits found waits (Nat.le_refl _) unanswered alone
  obtain ⟨held, stage, -⟩ := waits'.opening
  exact ⟨s, by rw [run_append]; exact found', waits'.gone, ⟨held, stage⟩, waits'.unstopped⟩

end Passage.Listener
