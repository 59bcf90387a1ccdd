import Passage.Proofs.Entry.Record

namespace Passage

namespace Listener

/-- Whether a session is past the point where it could still put a failure on record. -/
def Stage.isSettled : Stage → Bool
  | .opening _ | .failing _ => false
  | .relaying | .closing | .closed => true

/-- What is on record was met by a session of the present attempt. -/
def Own (l : Listener) : Prop :=
  ∀ r, l.slot = some r → ∃ s, l.sessions[r.session]? = some s ∧ s.attempt = l.attempt

/-- Nothing can come on record that is not the present attempt's own. -/
structure Unmixed (l : Listener) : Prop where
  own : l.Own
  others : ∀ s ∈ l.sessions, s.attempt = l.attempt ∨ s.stage.isSettled = true

theorem Turn.settled {slot : Option Recorded} {stage stage' : Stage} {fault fault' : Option Fault}
    (turn : Turn slot stage fault stage' fault') (settled : stage.isSettled = true) :
    stage'.isSettled = true := by
  cases turn with
  | same => exact settled
  | holds | up | leaves | breaks | fails | records => cases settled
  | ends | closes => rfl

theorem Advances.attempt_kept {l l' : Listener} (h : Advances l l') {i : Nat} {s : Session}
    (hs : l.sessions[i]? = some s) : ∃ s', l'.sessions[i]? = some s' ∧ s'.attempt = s.attempt := by
  obtain ⟨s', hs', follows⟩ := h.exists_follows hs
  exact ⟨s', hs', follows.attempt⟩

theorem Unmixed.advances {l l' : Listener} (unmixed : l.Unmixed) (h : Advances l l') :
    l'.Unmixed := by
  constructor
  · intro r hr
    have found : ∃ s, l.sessions[r.session]? = some s ∧ s.attempt = l.attempt := by
      rcases h.slot with same | ⟨-, i, s, fault, hs, stage, recorded⟩
      · exact unmixed.own r (same ▸ hr)
      · cases recorded.symm.trans hr
        rcases unmixed.others s (List.mem_of_getElem? hs) with present | settled
        · exact ⟨s, hs, present⟩
        · rw [stage] at settled
          cases settled
    obtain ⟨s, hs, present⟩ := found
    obtain ⟨s', hs', kept⟩ := h.attempt_kept hs
    exact ⟨s', hs', by rw [kept, present, h.attempt]⟩
  · intro s' hs'
    rw [h.attempt]
    rcases h.mem hs' with ⟨new, -⟩ | ⟨s, hs, follows⟩
    · exact .inl new
    · rw [follows.attempt]
      exact (unmixed.others s hs).imp_right follows.turn.settled

section

variable {l : Listener} {i : Nat} {s : Session} (hs : l.sessions[i]? = some s)
  (old : s.attempt < l.attempt) (empty : l.slot = none)
include hs old empty

theorem record_not_own {fault : Fault} (stage : s.stage = .failing fault) :
    ¬ (l.step (.record i)).Own := by
  intro own
  have recorded : (l.step (.record i)).slot = some ⟨i, fault⟩ := by
    simp [step, record, hs, stage, empty, change]
  have goesOn := advances_record l i
  obtain ⟨s', hs', present⟩ := own _ recorded
  obtain ⟨kept, hk, same⟩ := goesOn.attempt_kept hs
  cases hs'.symm.trans hk
  rw [same] at present
  exact absurd (present.trans goesOn.attempt) (Nat.ne_of_lt old)

/-- A session of an earlier attempt that is not settled can still put its failure on record. -/
theorem late_record (unsettled : s.stage.isSettled = false) :
    ∃ events : List Event, (∀ e ∈ events, e.isFree = true) ∧ ¬ (l.run events).Own := by
  cases stage : s.stage with
  | failing fault =>
    refine ⟨[.record i], by simp [Event.isFree], ?_⟩
    exact record_not_own hs old empty stage
  | opening held =>
    let fault : Fault := .proxyConnect "" "" ""
    refine ⟨[.chainDown i fault, .record i], by simp [Event.isFree], ?_⟩
    have down : (l.step (.chainDown i fault)).sessions[i]? = some (s.chainDown fault) := by
      change (l.change i _).sessions[i]? = _
      rw [getElem?_change, hs]
      simp
    have failing : s.chainDown fault =
        { s with chainFault := some fault }.finish (.failing fault) := by
      rw [Session.chainDown, stage]
      rfl
    apply record_not_own down
    · rw [failing]
      exact old
    · exact empty
    · rw [failing]
      rfl
  | relaying | closing | closed =>
    rw [stage] at unsettled
    cases unsettled

end
end Listener

namespace Negotiation

open Listener

namespace Transit

theorem unmixed_run {t : Transit} (unmixed : t.entry.Unmixed) {moves : List Move}
    (within : ∀ m ∈ moves, m.isWithin = true) : (t.run moves).entry.Unmixed := by
  induction moves generalizing t with
  | nil => exact unmixed
  | cons m rest ih =>
    apply ih
    · exact unmixed.advances (advances_within t (within m List.mem_cons_self))
    · exact fun m' hm => within m' (List.mem_cons_of_mem m hm)

theorem unmixed_begin {t : Transit} (settled : ∀ s ∈ t.entry.sessions, s.stage.isSettled = true)
    {moves : List Move} (within : ∀ m ∈ moves, m.isWithin = true) :
    (t.run (.begin :: moves)).entry.Unmixed := by
  apply unmixed_run _ within
  refine ⟨?_, fun s hs => .inr (settled s hs)⟩
  intro r hr
  cases hr

theorem run_meanwhile (t : Transit) {events : List Listener.Event}
    (free : ∀ e ∈ events, e.isFree = true) :
    (t.run (events.map .meanwhile)).entry = t.entry.run events := by
  induction events generalizing t with
  | nil => rfl
  | cons e rest ih =>
    have now : t.step (.meanwhile e) = { t with entry := t.entry.step e } :=
      if_pos (free e List.mem_cons_self)
    rw [List.map_cons, run_cons, ih _ fun e' he => free e' (List.mem_cons_of_mem e he), now]
    rfl

theorem run_failed (t : Transit) {moves : List Move} (within : ∀ m ∈ moves, m.isWithin = true)
    (driver : Option Fault) :
    (t.run (.begin :: (moves ++ [.fail driver]))).endings =
      t.endings ++ [⟨driver, ((t.step .begin).run moves).entry⟩] := by
  obtain ⟨busy, endings⟩ := (t.step .begin).run_within within
  rw [run_cons, run_append, run_cons, run_nil, step_fail (busy.trans rfl), endings]
  rfl

end Transit

/-- The driver gives up its first attempt while the chain is still being connected, and is turned down by
the database in its second. Only then does the chain of the first session fail. -/
def Surroundings.overlapping : Surroundings Nat Nat where
  attempt
    | 0, _ => ({ course := .ends 1 (.error .connectionClosed), during := [.accept, .hangUp 0] }, 1)
    | n, _ =>
      ({ course := .ends 1 (.error (.authentication "wrong password"))
         during :=
          [.accept, .chainUp 1, .chainDown 0 (.proxyConnect "proxy:1080" "timed out" ""), .record 0] },
        n + 1)
  close n _ := (.ok (), n)

/-- Whatever happens during an attempt, the failure on record at its end is the attempt's own exactly if
no session of an earlier attempt could still record one when it began. -/
theorem failure_own_iff (history : List Transit.Move) :
    let t := Transit.run {} history
    (∀ moves driver e, (∀ m ∈ moves, m.isWithin = true) →
        (t.run (.begin :: (moves ++ [.fail driver]))).endings = t.endings ++ [e] → e.entry.Own) ↔
      ∀ s ∈ t.entry.sessions, s.stage.isSettled = true := by
  intro t
  constructor
  · intro own s hs
    cases settled : s.stage.isSettled with
    | true => rfl
    | false =>
      obtain ⟨i, hi⟩ := List.getElem?_of_mem hs
      have old := (Transit.run_faithful history).sound.attempt s hs
      obtain ⟨events, free, foreign⟩ := late_record (l := (t.step .begin).entry) hi
        (Nat.lt_succ_of_le old) rfl settled
      have within := Visit.within_meanwhile events
      have failed := own _ none _ within (t.run_failed within none)
      rw [Transit.run_meanwhile _ free] at failed
      exact absurd failed foreign
  · intro settled moves driver e within ended
    rw [t.run_failed within driver] at ended
    cases List.append_cancel_left ended
    exact (Transit.unmixed_begin settled within).own

/-- The second attempt is told to have failed at the proxy, which only the first attempt's session met. -/
theorem leftover_reported :
    ∃ after w e r s,
      connect Surroundings.overlapping.driver { order := [.required, .disabled] } (.ok 40000)
          throughProxy (0, {}) =
        (.ends after
          (.error (.proxyConnect "proxy:1080" "timed out" "postgres://db.internal:5000/")), w) ∧
      w.driver.2.endings.getLast? = some e ∧ e.driver = some (.authentication "wrong password") ∧
      e.entry.slot = some r ∧ e.entry.sessions[r.session]? = some s ∧
      s.attempt = 1 ∧ e.entry.attempt = 2 :=
  ⟨_, _, _, _, _, rfl, rfl, rfl, rfl, rfl, rfl, rfl⟩

end Negotiation
end Passage
