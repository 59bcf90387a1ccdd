import Passage.Proofs.Entry.Sessions
import Passage.Proofs.Negotiation.Endings

namespace Passage

namespace Listener

/-- The chain of the session failed at a hop. -/
def Session.broke (s : Session) : Bool :=
  s.chainFault.any Fault.isTunnel

/-- The socket of a client of the present attempt was closed because a hop failed. -/
def LostClient (l : Listener) : Prop :=
  ∃ s ∈ l.sessions, s.attempt = l.attempt ∧ s.stage = .closed ∧ s.broke = true

structure Sound (l : Listener) : Prop where
  slot : ∀ r, l.slot = some r → r.fault.isTunnel = true
  failing : ∀ s ∈ l.sessions, ∀ fault, s.stage = .failing fault → fault.isTunnel = true
  attempt : ∀ s ∈ l.sessions, s.attempt ≤ l.attempt

/-- A hop's failure that the present attempt met is still to be recorded, or there is one on record. -/
def Told (l : Listener) : Prop :=
  ∀ s ∈ l.sessions, s.attempt = l.attempt → s.broke = true →
    (∃ fault, s.stage = .failing fault) ∨ l.slot.isSome = true

theorem Advances.mem {l l' : Listener} (h : Advances l l') {s' : Session} (hs : s' ∈ l'.sessions) :
    s'.attempt = l.attempt ∧ s'.stage = .opening [] ∧ s'.chainFault = none ∨
      ∃ s ∈ l.sessions, s.Follows l'.slot s' := by
  obtain ⟨i, hi⟩ := List.getElem?_of_mem hs
  rcases h.sessions i s' hi with ⟨-, new⟩ | ⟨s, hs, follows⟩
  · exact .inl new
  · exact .inr ⟨s, List.mem_of_getElem? hs, follows⟩

theorem Advances.slot_kept {l l' : Listener} (h : Advances l l') (known : l.slot.isSome = true) :
    l'.slot.isSome = true := by
  rcases h.slot with same | ⟨none, -⟩
  · rwa [same]
  · rw [none] at known
    cases known

theorem Turn.failing {slot : Option Recorded} {stage : Stage} {old old' : Option Fault}
    {fault : Fault} (turn : Turn slot stage old (.failing fault) old') :
    stage = .failing fault ∨ fault.isTunnel = true := by
  cases turn with
  | same => exact .inl rfl
  | breaks held old fault hop => exact .inr hop

theorem Sound.advances {l l' : Listener} (sound : l.Sound) (h : Advances l l') : l'.Sound where
  slot r hr := by
    rcases h.slot with same | ⟨-, i, s, fault, hs, stage, recorded⟩
    · exact sound.slot r (same ▸ hr)
    · cases recorded.symm.trans hr
      exact sound.failing s (List.mem_of_getElem? hs) fault stage
  failing s' hs' fault stage := by
    rcases h.mem hs' with ⟨-, new, -⟩ | ⟨s, hs, follows⟩
    · cases new.symm.trans stage
    · have turn := follows.turn
      rw [stage] at turn
      exact turn.failing.elim (sound.failing s hs fault) id
  attempt s' hs' := by
    rw [h.attempt]
    rcases h.mem hs' with ⟨new, -⟩ | ⟨s, hs, follows⟩
    · exact Nat.le_of_eq new
    · rw [follows.attempt]
      exact sound.attempt s hs

theorem Turn.told {slot : Option Recorded} {stage stage' : Stage} {fault fault' : Option Fault}
    (turn : Turn slot stage fault stage' fault') (broke : fault'.any Fault.isTunnel = true)
    (before : fault.any Fault.isTunnel = true → (∃ f, stage = .failing f) ∨ slot.isSome = true) :
    (∃ f, stage' = .failing f) ∨ slot.isSome = true := by
  cases turn with
  | same => exact before broke
  | breaks held old fault hop => exact .inl ⟨fault, rfl⟩
  | fails held old fault other =>
    rw [Option.any_some, other] at broke
    cases broke
  | records fault old known => exact .inr known
  | _ =>
    rcases before broke with ⟨f, pending⟩ | known
    · cases pending
    · exact .inr known

theorem Told.advances {l l' : Listener} (told : l.Told) (h : Advances l l') : l'.Told := by
  intro s' hs' present broke
  rcases h.mem hs' with ⟨-, -, new⟩ | ⟨s, hs, follows⟩
  · rw [Session.broke, new] at broke
    cases broke
  · apply follows.turn.told broke
    intro before
    have own : s.attempt = l.attempt := by rw [← follows.attempt, present, h.attempt]
    exact (told s hs own before).imp_right h.slot_kept

theorem Sound.begin {l : Listener} (sound : l.Sound) :
    (l.step .begin).Sound ∧ (l.step .begin).Told := by
  refine ⟨⟨?_, sound.failing, ?_⟩, ?_⟩
  · intro r hr
    cases hr
  · intro s hs
    exact Nat.le_succ_of_le (sound.attempt s hs)
  -- No session belongs to the new attempt yet.
  · intro s hs present
    exact absurd present (Nat.ne_of_lt (Nat.lt_succ_of_le (sound.attempt s hs)))

theorem Sound.take {l : Listener} (sound : l.Sound) : (l.step .take).Sound := by
  refine ⟨?_, sound.failing, sound.attempt⟩
  intro r hr
  cases hr

theorem Told.known {l : Listener} (told : l.Told) (lost : l.LostClient) : l.slot.isSome = true := by
  obtain ⟨s, hs, present, closed, broke⟩ := lost
  rcases told s hs present broke with ⟨fault, pending⟩ | known
  · cases closed.symm.trans pending
  · exact known

end Listener

namespace Negotiation

open Listener

/-- What is true of a request at its entry whenever a move is over. -/
structure Transit.Faithful (t : Transit) : Prop where
  sound : t.entry.Sound
  told : t.busy = true → t.entry.Told
  endings : ∀ e ∈ t.endings, e.entry.Sound ∧ e.entry.Told

namespace Transit

theorem advances_within (t : Transit) {m : Move} (within : m.isWithin = true) :
    Advances t.entry (t.step m).entry := by
  cases m with
  | begin => cases within
  | succeed => cases within
  | fail driver => cases within
  | stop => exact step_advances t.entry (e := .stop) (by simp) (by simp)
  | giveUp =>
    simp only [Transit.step]
    split
    · exact step_advances t.entry (e := .dropSessions) (by simp) (by simp)
    · exact .refl _
  | meanwhile event =>
    simp only [Transit.step]
    split
    · rename_i free
      apply step_advances
      · rintro rfl
        cases free
      · rintro rfl
        cases free
    · exact .refl _

theorem Faithful.within {t : Transit} (faithful : t.Faithful) {m : Move}
    (within : m.isWithin = true) : (t.step m).Faithful := by
  obtain ⟨busy, endings⟩ := step_within t within
  have goesOn := advances_within t within
  refine ⟨faithful.sound.advances goesOn, ?_, ?_⟩
  · intro h
    exact (faithful.told (busy ▸ h)).advances goesOn
  · rw [endings]
    exact faithful.endings

theorem Faithful.step {t : Transit} (faithful : t.Faithful) (m : Move) : (t.step m).Faithful := by
  cases m with
  | begin =>
    obtain ⟨sound, told⟩ := faithful.sound.begin
    exact ⟨sound, fun _ => told, faithful.endings⟩
  | succeed =>
    refine ⟨faithful.sound, ?_, faithful.endings⟩
    intro busy
    cases busy
  | fail driver =>
    simp only [Transit.step]
    split
    · rename_i busy
      refine ⟨faithful.sound.take, ?_, ?_⟩
      · intro busy
        cases busy
      · intro e he
        rcases List.mem_append.mp he with he | he
        · exact faithful.endings e he
        · rw [List.mem_singleton.mp he]
          exact ⟨faithful.sound, faithful.told busy⟩
    · exact faithful
  | giveUp => exact faithful.within rfl
  | stop => exact faithful.within rfl
  | meanwhile event => exact faithful.within rfl

theorem Faithful.run {t : Transit} (faithful : t.Faithful) (history : List Move) :
    (t.run history).Faithful := by
  induction history generalizing t with
  | nil => exact faithful
  | cons m rest ih => exact ih (faithful.step m)

theorem run_faithful (history : List Move) : (run {} history).Faithful := by
  apply Faithful.run
  refine ⟨⟨?_, ?_, ?_⟩, ?_, ?_⟩
  · intro r hr
    cases hr
  · intro s hs
    cases hs
  · intro s hs
    cases hs
  · intro busy
    cases busy
  · intro e he
    cases he

end Transit

theorem isTunnel_withUri (uri : String) (fault : Fault) :
    (fault.withUri uri).isTunnel = fault.isTunnel := by
  cases fault <;> rfl

/-- What is on record at the entry is what the attempt is reported to have failed with. -/
theorem Ending.fault_recorded {e : Ending} (sound : e.entry.Sound) {r : Recorded}
    (recorded : e.entry.slot = some r) (uri : String) : e.fault uri true = r.fault.withUri uri := by
  rw [Ending.fault, if_pos rfl, Listener.fault?, recorded]
  exact if_pos (sound.slot r recorded)

theorem Ending.fault_isTunnel {e : Ending} (sound : e.entry.Sound)
    (known : e.entry.slot.isSome = true) (uri : String) : (e.fault uri true).isTunnel = true := by
  obtain ⟨r, recorded⟩ := Option.isSome_iff_exists.mp known
  rw [fault_recorded sound recorded, isTunnel_withUri]
  exact sound.slot r recorded

/-- A proxy that cannot be reached. Every attempt has a session of its own, which closes its client's
socket. -/
def Surroundings.refused : Surroundings Nat Nat where
  attempt n _ :=
    ({ course := .ends 1 (.error .connectionClosed)
       during := [.accept, .chainDown n (.proxyConnect "proxy:1080" "refused" ""), .record n, .close n] },
      n + 1)
  close n _ := (.ok (), n)

def throughProxy : Options :=
  { asking .postgres none with proxy := some ⟨"proxy", 1080, none, none⟩ }

/-- In every history of an entry only failures of hops are on record; while an attempt is under way and
a client of this attempt has seen its socket close because a hop failed, there is one; and an attempt
that fails after that is reported to have failed at a hop. What a request through a tunnel does is such
a history, and the failures that it reports are those of the attempts that failed in it. -/
theorem lostClient_reported {σ κ : Type} (d : Surroundings σ κ) (s : Settings)
    (listen : Except IoFault UInt16) (options : Options) (state : σ) {resolved : Resolved}
    (hr : options.resolve = .ok resolved) (tunnel : resolved.needsTunnel = true) :
    (∀ history uri,
      let t := Transit.run {} history
      (∀ r, t.entry.slot = some r → r.fault.isTunnel = true) ∧
      (t.busy = true → t.entry.LostClient → t.entry.slot.isSome = true) ∧
      ∀ e ∈ t.endings, e.entry.LostClient → (e.fault uri true).isTunnel = true) ∧
    let w := (connect d.driver s listen options (state, {})).2
    (∃ history, w.driver.2 = Transit.run {} history) ∧
      w.journal.failures = w.driver.2.endings.map (·.fault resolved.sanitizedUri true) := by
  constructor
  · intro history uri t
    have faithful : t.Faithful := Transit.run_faithful history
    refine ⟨faithful.sound.slot, ?_, ?_⟩
    · intro busy lost
      exact (faithful.told busy).known lost
    · intro e he lost
      obtain ⟨sound, told⟩ := faithful.endings e he
      exact e.fault_isTunnel sound (told.known lost) uri
  · refine ⟨connect_transit d s listen options state, ?_⟩
    rw [← tunnel]
    exact connect_failures d s listen options state hr

theorem lostClient_reported_refused :
    let w := (connect Surroundings.refused.driver { order := [.required, .disabled] } (.ok 40000)
      throughProxy (0, {})).2
    w.driver.2.endings.length = 2 ∧ (∀ e ∈ w.driver.2.endings, e.entry.LostClient) ∧
      ∀ fault ∈ w.journal.failures, fault.isTunnel = true := by
  intro w
  have two : ∃ a b, w.driver.2.endings = [a, b] ∧ a.entry.LostClient ∧ b.entry.LostClient :=
    ⟨_, _, rfl, ⟨_, .head _, rfl, rfl, rfl⟩, ⟨_, .tail _ (.head _), rfl, rfl, rfl⟩⟩
  obtain ⟨a, b, both, first, second⟩ := two
  have lost : ∀ e ∈ w.driver.2.endings, e.entry.LostClient := by
    rw [both]
    simp [first, second]
  obtain ⟨kept, ⟨history, made⟩, failures⟩ := lostClient_reported Surroundings.refused
    { order := [.required, .disabled] } (.ok 40000) throughProxy 0 rfl rfl
  refine ⟨rfl, lost, ?_⟩
  intro fault hf
  rw [failures] at hf
  obtain ⟨e, he, rfl⟩ := List.mem_map.mp hf
  exact (kept history _).2.2 e (made ▸ he) (lost e he)

end Negotiation
end Passage
