import Passage.Listener

namespace Passage.Listener

theorem run_append (l : Listener) (before after : List Event) :
    l.run (before ++ after) = (l.run before).run after :=
  List.foldl_append

/-- How a session can go on: its stage and its chain's failure before and after an event. `slot` is what
the entry has on record after the event. -/
inductive Turn (slot : Option Recorded) : Stage → Option Fault → Stage → Option Fault → Prop where
  | same (stage : Stage) (fault : Option Fault) : Turn slot stage fault stage fault
  | holds (before after : List UInt8) (fault : Option Fault) :
      Turn slot (.opening before) fault (.opening after) fault
  | up (held : List UInt8) (fault : Option Fault) : Turn slot (.opening held) fault .relaying fault
  | leaves (held : List UInt8) (fault : Option Fault) : Turn slot (.opening held) fault .closing fault
  | ends (fault : Option Fault) : Turn slot .relaying fault .closing fault
  | breaks (held : List UInt8) (old : Option Fault) (fault : Fault) (hop : fault.isTunnel = true) :
      Turn slot (.opening held) old (.failing fault) (some fault)
  | fails (held : List UInt8) (old : Option Fault) (fault : Fault) (other : fault.isTunnel = false) :
      Turn slot (.opening held) old .closing (some fault)
  | records (fault : Fault) (old : Option Fault) (known : slot.isSome = true) :
      Turn slot (.failing fault) old .closing old
  | closes (fault : Option Fault) : Turn slot .closing fault .closed fault

/-- A session that went on belongs to the attempt that it always belonged to. -/
structure Session.Follows (slot : Option Recorded) (s s' : Session) : Prop where
  attempt : s'.attempt = s.attempt
  turn : Turn slot s.stage s.chainFault s'.stage s'.chainFault

namespace Session

variable (slot : Option Recorded) (s : Session)

theorem Follows.refl : Follows slot s s :=
  ⟨rfl, .same _ _⟩

theorem follows_read : Follows slot s s.read := by
  unfold read
  split
  · rename_i held stage
    split
    · exact .refl slot s
    · split
      · split
        · exact ⟨rfl, by rw [stage]; exact .leaves held _⟩
        · exact .refl slot s
      · exact ⟨rfl, by rw [stage]; exact .holds held _ _⟩
  · exact ⟨rfl, .same _ _⟩
  · exact .refl slot s

theorem follows_chainUp : Follows slot s s.chainUp := by
  unfold chainUp
  split
  · rename_i held stage
    exact ⟨rfl, by rw [stage]; exact .up held _⟩
  · exact .refl slot s

theorem follows_chainDown (fault : Fault) : Follows slot s (s.chainDown fault) := by
  unfold chainDown
  split
  · rename_i held stage
    refine ⟨rfl, ?_⟩
    rw [stage]
    cases hop : fault.isTunnel with
    | true => exact .breaks held _ fault hop
    | false => exact .fails held _ fault hop
  · exact .refl slot s

theorem follows_relayEnds : Follows slot s s.relayEnds := by
  unfold relayEnds
  split
  · rename_i stage
    exact ⟨rfl, by rw [stage]; exact .ends _⟩
  · exact .refl slot s

theorem follows_cancel : Follows slot s s.cancel := by
  unfold cancel
  split
  · rename_i held stage
    exact ⟨rfl, by rw [stage]; exact .leaves held _⟩
  · rename_i stage
    exact ⟨rfl, by rw [stage]; exact .ends _⟩
  · exact .refl slot s

theorem follows_send (data : List UInt8) : Follows slot s (s.send data) := by
  unfold send
  split
  · exact .refl slot s
  · exact ⟨rfl, .same _ _⟩

theorem follows_close : Follows slot s s.close := by
  unfold close
  split
  · rename_i stage
    exact ⟨rfl, by rw [stage]; exact .closes _⟩
  · exact .refl slot s

end Session

/-- How an entry can go on while no attempt begins or ends. -/
structure Advances (l l' : Listener) : Prop where
  attempt : l'.attempt = l.attempt
  /-- A failure is put on record once, by a session that is about to end with it. -/
  slot : l'.slot = l.slot ∨
    l.slot = none ∧ ∃ (i : Nat) (s : Session) (fault : Fault), l.sessions[i]? = some s ∧ s.stage = .failing fault ∧
      l'.slot = some ⟨i, fault⟩
  sessions : ∀ (i : Nat) (s' : Session), l'.sessions[i]? = some s' →
    l.sessions[i]? = none ∧ s'.attempt = l.attempt ∧ s'.stage = .opening [] ∧ s'.chainFault = none ∨
      ∃ s : Session, l.sessions[i]? = some s ∧ s.Follows l'.slot s'
  length : l.sessions.length ≤ l'.sessions.length

theorem getElem?_change (l : Listener) (i j : Nat) (f : Session → Session) :
    (l.change i f).sessions[j]? = l.sessions[j]?.map fun s => if i = j then f s else s :=
  List.getElem?_modify f i l.sessions j

theorem Advances.refl (l : Listener) : Advances l l where
  attempt := rfl
  slot := .inl rfl
  sessions _ s h := .inr ⟨s, h, .refl _ s⟩
  length := Nat.le_refl _

theorem Advances.exists_follows {l l' : Listener} (h : Advances l l') {i : Nat} {s : Session}
    (found : l.sessions[i]? = some s) : ∃ s', l'.sessions[i]? = some s' ∧ s.Follows l'.slot s' := by
  obtain ⟨bound, -⟩ := List.getElem?_eq_some_iff.mp found
  have found' := List.getElem?_eq_getElem (Nat.lt_of_lt_of_le bound h.length)
  rcases h.sessions i _ found' with ⟨none, -⟩ | ⟨old, before, follows⟩
  · cases none.symm.trans found
  · cases before.symm.trans found
    exact ⟨_, found', follows⟩

theorem advances_change (l : Listener) (i : Nat) {f : Session → Session}
    (follows : ∀ s, Session.Follows l.slot s (f s)) : Advances l (l.change i f) where
  attempt := rfl
  slot := .inl rfl
  sessions j s' h := by
    rw [getElem?_change, Option.map_eq_some_iff] at h
    obtain ⟨s, hs, rfl⟩ := h
    refine .inr ⟨s, hs, ?_⟩
    split
    · exact follows s
    · exact .refl _ s
  length := Nat.le_of_eq (List.length_modify f l.sessions i).symm

theorem advances_accept (l : Listener) : Advances l (l.step .accept) where
  attempt := rfl
  slot := .inl rfl
  sessions i s' h := by
    change (l.sessions ++ [_])[i]? = some s' at h
    rw [List.getElem?_append] at h
    split at h
    · exact .inr ⟨s', h, .refl _ s'⟩
    · rename_i beyond
      refine .inl ⟨List.getElem?_eq_none (Nat.le_of_not_lt beyond), ?_⟩
      obtain ⟨rfl⟩ := List.mem_singleton.mp (List.mem_of_getElem? h)
      exact ⟨rfl, rfl, rfl⟩
  length := by
    simp [step]

theorem advances_record (l : Listener) (i : Nat) : Advances l (l.record i) := by
  unfold record
  split
  · rename_i s hs
    split
    · rename_i fault stage
      constructor
      case attempt => rfl
      case slot =>
        cases hslot : l.slot with
        | some old => exact .inl (by simp [change])
        | none => exact .inr ⟨rfl, i, s, fault, hs, stage, by simp [change]⟩
      case sessions =>
        intro j s' h
        rw [getElem?_change, Option.map_eq_some_iff] at h
        obtain ⟨old, ho, rfl⟩ := h
        refine .inr ⟨old, ho, ?_⟩
        split
        · rename_i same
          subst same
          cases ho.symm.trans hs
          refine ⟨rfl, ?_⟩
          rw [stage]
          apply Turn.records fault
          cases l.slot <;> simp [change]
        · exact .refl _ old
      case length => exact Nat.le_of_eq (List.length_modify _ l.sessions i).symm
    · exact .refl l
  · exact .refl l

/-- Whatever happens at the entry, it goes on unless an attempt begins or takes what is on record. -/
theorem step_advances (l : Listener) {e : Event} (begins : e ≠ .begin) (takes : e ≠ .take) :
    Advances l (l.step e) := by
  cases e with
  | begin => exact absurd rfl begins
  | take => exact absurd rfl takes
  | accept => exact advances_accept l
  | dropSessions => exact ⟨rfl, .inl rfl, (Advances.refl l).sessions, Nat.le_refl _⟩
  | stop => exact ⟨rfl, .inl rfl, (Advances.refl l).sessions, Nat.le_refl _⟩
  | send i data => exact advances_change l i fun s => s.follows_send l.slot data
  | hangUp i => exact advances_change l i fun s => ⟨rfl, .same _ _⟩
  | read i => exact advances_change l i fun s => s.follows_read l.slot
  | chainUp i => exact advances_change l i fun s => s.follows_chainUp l.slot
  | chainDown i fault => exact advances_change l i fun s => s.follows_chainDown l.slot fault
  | relayEnds i => exact advances_change l i fun s => s.follows_relayEnds l.slot
  | notice i =>
    apply advances_change l i
    intro s
    split
    · exact s.follows_cancel l.slot
    · exact .refl _ s
  | record i => exact advances_record l i
  | close i => exact advances_change l i fun s => s.follows_close l.slot

end Passage.Listener
