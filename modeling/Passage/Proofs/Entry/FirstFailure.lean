import Passage.Proofs.Entry.Record

namespace Passage

namespace Listener

/-- The failure that a session reports with an event. -/
def report? (l : Listener) : Event → Option Fault
  | .record i =>
    l.sessions[i]?.bind fun s =>
      match s.stage with
      | .failing fault => some fault
      | _ => none
  | _ => none

theorem report?_eq_some {l : Listener} {e : Event} {fault : Fault} (h : l.report? e = some fault) :
    ∃ s ∈ l.sessions, s.stage = .failing fault := by
  cases e with
  | record i =>
    obtain ⟨s, hs, reported⟩ := Option.bind_eq_some_iff.mp h
    split at reported
    · rename_i stage
      cases reported
      exact ⟨s, List.mem_of_getElem? hs, stage⟩
    · cases reported
  | _ => cases h

theorem fault?_record (l : Listener) (i : Nat) :
    (l.record i).fault? = l.fault?.or (l.report? (.record i)) := by
  cases hs : l.sessions[i]? with
  | none => simp [record, report?, hs]
  | some s =>
    cases stage : s.stage with
    | failing fault =>
      have recorded : (l.record i).slot = l.slot.or (some ⟨i, fault⟩) := by
        simp [record, hs, stage, change]
      rw [fault?, recorded, fault?, report?, hs, Option.bind_some, stage]
      cases l.slot <;> rfl
    | _ => simp [record, report?, hs, stage]

/-- While no attempt begins or takes what is on record, it changes only where there is none and a session
reports a failure. -/
theorem fault?_step (l : Listener) {e : Event} (begins : e ≠ .begin) (takes : e ≠ .take) :
    (l.step e).fault? = l.fault?.or (l.report? e) := by
  cases e with
  | begin => exact absurd rfl begins
  | take => exact absurd rfl takes
  | record i => exact l.fault?_record i
  | _ => exact Option.or_none.symm

end Listener

namespace Negotiation.Transit

open Listener

def report? (t : Transit) : Move → Option Fault
  | .meanwhile event => t.entry.report? event
  | _ => none

/-- The failures that sessions report in the course of moves, in order. -/
def reports (t : Transit) : List Move → List Fault
  | [] => []
  | m :: rest => (t.report? m).toList ++ (t.step m).reports rest

theorem fault?_step (t : Transit) {m : Move} (within : m.isWithin = true) :
    (t.step m).entry.fault? = t.entry.fault?.or (t.report? m) := by
  cases m with
  | begin => cases within
  | succeed => cases within
  | fail driver => cases within
  | stop => exact t.entry.fault?_step (e := .stop) (by simp) (by simp)
  | giveUp =>
    simp only [step]
    split
    · exact t.entry.fault?_step (e := .dropSessions) (by simp) (by simp)
    · exact Option.or_none.symm
  | meanwhile event =>
    simp only [step]
    split
    · rename_i free
      apply t.entry.fault?_step
      · rintro rfl
        cases free
      · rintro rfl
        cases free
    · rename_i held
      have silent : t.entry.report? event = none := by
        cases event with
        | record i => exact absurd rfl held
        | _ => rfl
      rw [report?, silent, Option.or_none]

/-- What is on record in the end is what was on record before, and for want of that the first failure
reported since. -/
theorem fault?_run (t : Transit) {moves : List Move} (within : ∀ m ∈ moves, m.isWithin = true) :
    (t.run moves).entry.fault? = t.entry.fault?.or (t.reports moves).head? := by
  induction moves generalizing t with
  | nil => exact Option.or_none.symm
  | cons m rest ih =>
    rw [run_cons, ih _ fun m' hm => within m' (List.mem_cons_of_mem m hm),
      t.fault?_step (within m List.mem_cons_self), Option.or_assoc, reports, List.head?_append,
      Option.head?_toList]

theorem reports_isTunnel {t : Transit} (sound : t.entry.Sound) {moves : List Move}
    (within : ∀ m ∈ moves, m.isWithin = true) :
    ∀ fault ∈ t.reports moves, fault.isTunnel = true := by
  induction moves generalizing t with
  | nil =>
    intro fault hf
    cases hf
  | cons m rest ih =>
    intro fault hf
    rcases List.mem_append.mp hf with now | later
    · cases m with
      | meanwhile event =>
        obtain ⟨s, hs, stage⟩ := report?_eq_some (Option.mem_toList.mp now)
        exact sound.failing s hs fault stage
      | _ => cases now
    · apply ih (sound.advances (advances_within t (within m List.mem_cons_self))) _ fault later
      exact fun m' hm => within m' (List.mem_cons_of_mem m hm)

end Negotiation.Transit
end Passage
