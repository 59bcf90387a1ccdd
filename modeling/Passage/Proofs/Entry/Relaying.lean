import Passage.Proofs.Entry.Sessions
import Passage.Proofs.Hop.Histories

namespace Passage.Listener

/-- The session that an event is about. -/
def Event.session? : Event → Option Nat
  | .send i _ | .hangUp i | .read i | .chainUp i | .chainDown i _ | .relayEnds i | .notice i | .record i
  | .close i => some i
  | _ => none

namespace Session

/-- What an event makes of the session that it is about. -/
def meet (s : Session) (told : Bool) : Event → Session
  | .send _ data => s.send data
  | .hangUp _ => { s with hungUp := true }
  | .read _ => s.read
  | .chainUp _ => s.chainUp
  | .chainDown _ fault => s.chainDown fault
  | .relayEnds _ => s.relayEnds
  | .notice _ => if told then s.cancel else s
  | .record _ =>
    match s.stage with
    | .failing _ => { s with stage := .closing }
    | _ => s
  | .close _ => s.close
  | _ => s

end Session

theorem getElem?_record (l : Listener) (i j : Nat) :
    (l.record j).sessions[i]? =
      if j = i then l.sessions[i]?.map fun s => s.meet (l.isCancelled s) (.record i) else l.sessions[i]? := by
  by_cases same : j = i
  · subst same
    rw [if_pos rfl, record]
    cases found : l.sessions[j]? with
    | none => simpa using found
    | some s =>
      cases stage : s.stage with
      | failing fault => simp [getElem?_change, found, Session.meet, stage]
      | _ => simp [found, Session.meet, stage]
  · rw [if_neg same, record]
    repeat' split
    · rw [getElem?_change]
      simp [same]
    · rfl
    · rfl

/-- A session that was there is what an event about it makes of it, and only an acceptance makes a new one. -/
theorem getElem?_step (l : Listener) (e : Event) (i : Nat) {s' : Session}
    (found : (l.step e).sessions[i]? = some s') :
    (∃ s, l.sessions[i]? = some s ∧ s' = if e.session? = some i then s.meet (l.isCancelled s) e else s) ∨
      l.sessions[i]? = none ∧ e = .accept ∧ s' = { generation := l.generation, attempt := l.attempt } := by
  have changed {j : Nat} {f : Session → Session} (at_i : (l.change j f).sessions[i]? = some s') :
      ∃ s, l.sessions[i]? = some s ∧ s' = if some j = some i then f s else s := by
    rw [getElem?_change, Option.map_eq_some_iff] at at_i
    obtain ⟨s, hs, same⟩ := at_i
    exact ⟨s, hs, by simp [← same]⟩
  cases e with
  | accept =>
    simp only [step, List.getElem?_append] at found
    split at found
    · exact .inl ⟨s', found, rfl⟩
    · next beyond =>
      obtain rfl := List.mem_singleton.mp (List.mem_of_getElem? found)
      exact .inr ⟨List.getElem?_eq_none (Nat.le_of_not_lt beyond), rfl, rfl⟩
  | record j =>
    simp only [step, getElem?_record] at found
    split at found
    · next same =>
      obtain ⟨s, hs, made⟩ := Option.map_eq_some_iff.mp found
      exact .inl ⟨s, hs, by simp [Event.session?, same, ← made, Session.meet]⟩
    · next other => exact .inl ⟨s', found, by simp [Event.session?, other]⟩
  | begin | take | dropSessions | stop => exact .inl ⟨s', found, rfl⟩
  | send | hangUp | read | chainUp | chainDown | relayEnds | notice | close => exact .inl (changed found)

theorem length_step (l : Listener) (e : Event) : l.sessions.length ≤ (l.step e).sessions.length := by
  cases e with
  | begin | take => exact Nat.le_refl _
  | _ => exact (step_advances l (by simp) (by simp)).length

theorem getElem?_step_of_some {l : Listener} {i : Nat} {s : Session} (found : l.sessions[i]? = some s) (e : Event) :
    (l.step e).sessions[i]? = some (if e.session? = some i then s.meet (l.isCancelled s) e else s) := by
  have within : i < (l.step e).sessions.length :=
    Nat.lt_of_lt_of_le (List.getElem?_eq_some_iff.mp found).1 (length_step l e)
  obtain ⟨s₀, hs, same⟩ | ⟨absent, -⟩ := getElem?_step l e i (List.getElem?_eq_getElem within)
  · cases hs.symm.trans found
    rw [List.getElem?_eq_getElem within, same]
  · cases absent.symm.trans found

/-- What the events about a session keep true of it stays true. -/
theorem exists_run_of_kept {P : Session → Prop} {i : Nat} {history : List Event}
    (kept : ∀ e ∈ history, e.session? = some i → ∀ s told, P s → P (s.meet told e)) {l : Listener} {s : Session}
    (found : l.sessions[i]? = some s) (holds : P s) :
    ∃ s', (l.run history).sessions[i]? = some s' ∧ P s' := by
  induction history generalizing l s with
  | nil => exact ⟨s, found, holds⟩
  | cons e rest ih =>
    apply ih (fun e' later => kept e' (.tail _ later)) (getElem?_step_of_some found e)
    split
    · next own => exact kept e (.head _) own s _ holds
    · exact holds

/-- What is true of a new session, and kept by the events about it, is true of it at any time. -/
theorem forall_run_of_kept {P : Session → Prop} {i : Nat} {history : List Event}
    (new : ∀ generation attempt, P { generation, attempt })
    (kept : ∀ e ∈ history, e.session? = some i → ∀ s told, P s → P (s.meet told e)) {l : Listener}
    (holds : ∀ s, l.sessions[i]? = some s → P s) {s' : Session} (found : (l.run history).sessions[i]? = some s') :
    P s' := by
  induction history generalizing l with
  | nil => exact holds s' found
  | cons e rest ih =>
    refine ih (fun e' later => kept e' (.tail _ later)) (l := l.step e) (fun s hs => ?_) found
    obtain ⟨s₀, before, rfl⟩ | ⟨-, -, rfl⟩ := getElem?_step l e i hs
    · split
      · next own => exact kept e (.head _) own s₀ _ (holds s₀ before)
      · exact holds s₀ before
    · exact new _ _

/-- What the client of a session sends with an event, if it is there to send anything. -/
def sent? (session : Nat) (l : Listener) : Event → Option (List UInt8)
  | .send i data => if i = session ∧ l.sessions[i]?.any (!·.hungUp) = true then some data else none
  | _ => none

/-- The chunks that the client of a session sends in the course of a history. -/
def chunks (session : Nat) (history : List Event) : List (List UInt8) :=
  History.findings step (sent? session) {} history

/-- All that the client of a session sends in the course of a history. -/
def sent (session : Nat) (history : List Event) : List UInt8 :=
  (chunks session history).flatten

/-- What is held of the bytes that a client sent. -/
def Stage.held : Stage → List UInt8
  | .opening held => held
  | _ => []

/-- Whether a session neither opens its chain nor relays. -/
def Stage.isOver : Stage → Bool
  | .opening _ | .relaying => false
  | .failing _ | .closing | .closed => true

namespace Session

/-- Where the bytes are that the client of a session sent. -/
structure Keeps (s : Session) (sent : List UInt8) : Prop where
  relayed : s.relayed <+: sent
  opening : ∀ held, s.stage = .opening held → s.relayed = [] ∧ held ++ s.unread = sent
  relaying : s.stage = .relaying → s.relayed ++ s.unread = sent
  bounded : s.stage.held.length ≤ earlyLimit + (readSize - 1)

section

variable {s : Session} {sent : List UInt8}

theorem Keeps.start (generation attempt : Nat) : Keeps { generation, attempt } [] where
  relayed := List.prefix_rfl
  opening held opening := by
    cases opening
    exact ⟨rfl, rfl⟩
  relaying := nofun
  bounded := Nat.zero_le _

/-- A session that is over keeps what it has relayed. -/
theorem Keeps.ended {s' : Session} (keeps : s.Keeps sent) (relayed : s'.relayed = s.relayed)
    (ended : s'.stage.isOver = true) : s'.Keeps sent where
  relayed := relayed ▸ keeps.relayed
  opening held opening := by
    rw [opening] at ended
    cases ended
  relaying relaying := by
    rw [relaying] at ended
    cases ended
  bounded := by
    cases stage : s'.stage with
    | opening held => rw [stage] at ended; cases ended
    | _ => exact Nat.zero_le _

theorem Keeps.read (keeps : s.Keeps sent) : s.read.Keeps sent := by
  unfold Session.read
  cases stage : s.stage with
  | opening held =>
    obtain ⟨unrelayed, pending⟩ := keeps.opening held stage
    dsimp only
    split
    · exact keeps
    · next below =>
      split
      · split
        · exact keeps.ended rfl rfl
        · exact keeps
      · refine ⟨keeps.relayed, ?_, nofun, ?_⟩
        · intro more opening
          cases opening
          exact ⟨unrelayed, by rw [List.append_assoc, List.take_append_drop, pending]⟩
        · -- The last read began below the limit and took no more than one read takes.
          have taken : (s.unread.take readSize).length ≤ readSize := List.length_take_le _ _
          have positive : 0 < readSize := by decide
          simp only [Stage.held, List.length_append]
          omega
  | relaying =>
    have all := keeps.relaying stage
    dsimp only
    exact ⟨all ▸ List.prefix_rfl, nofun, fun _ => by rw [List.append_nil, all], Nat.zero_le _⟩
  | failing _ | closing | closed => exact keeps

theorem Keeps.chainUp (keeps : s.Keeps sent) : s.chainUp.Keeps sent := by
  unfold Session.chainUp
  split
  · next held stage =>
    obtain ⟨-, pending⟩ := keeps.opening held stage
    exact ⟨⟨_, pending⟩, nofun, fun _ => pending, Nat.zero_le _⟩
  · exact keeps

/-- What does not come from the client leaves its bytes where they are, or moves them on. -/
theorem Keeps.meet (keeps : s.Keeps sent) (told : Bool) {e : Event} (mute : ∀ i data, e ≠ .send i data) :
    (s.meet told e).Keeps sent := by
  cases e with
  | send i data => exact absurd rfl (mute i data)
  | begin | take | accept | dropSessions | stop => exact keeps
  | hangUp => exact ⟨keeps.relayed, keeps.opening, keeps.relaying, keeps.bounded⟩
  | read => exact keeps.read
  | chainUp => exact keeps.chainUp
  | chainDown i fault =>
    simp only [Session.meet, Session.chainDown]
    split
    · split <;> exact keeps.ended rfl rfl
    · exact keeps
  | relayEnds =>
    simp only [Session.meet, Session.relayEnds]
    split
    · exact keeps.ended rfl rfl
    · exact keeps
  | notice =>
    simp only [Session.meet, cancel]
    split
    · split
      · exact keeps.ended rfl rfl
      · exact keeps.ended rfl rfl
      · exact keeps
    · exact keeps
  | record | close =>
    simp only [Session.meet, Session.close]
    split
    · exact keeps.ended rfl rfl
    · exact keeps

theorem Keeps.send (keeps : s.Keeps sent) (there : s.hungUp = false) (data : List UInt8) :
    (s.send data).Keeps (sent ++ data) := by
  have takes : s.send data = { s with unread := s.unread ++ data } := by
    simp [Session.send, there]
  rw [takes]
  refine ⟨keeps.relayed.trans (List.prefix_append _ _), ?_, ?_, keeps.bounded⟩
  · intro held opening
    obtain ⟨unrelayed, pending⟩ := keeps.opening held opening
    exact ⟨unrelayed, by rw [← pending, List.append_assoc]⟩
  · intro relaying
    rw [← keeps.relaying relaying, List.append_assoc]

end

end Session

/-- Every session keeps what its client sent. -/
structure Keeps (l : Listener) (sent : Nat → List UInt8) : Prop where
  sessions : ∀ (i : Nat) (s : Session), l.sessions[i]? = some s → s.Keeps (sent i)
  nobody : ∀ i : Nat, l.sessions[i]? = none → sent i = []

section

variable {l : Listener}

theorem Keeps.step {sent : Nat → List UInt8} (keeps : l.Keeps sent) (e : Event) :
    (l.step e).Keeps fun i => sent i ++ (sent? i l e).getD [] where
  sessions i s' found := by
    obtain ⟨s, hs, rfl⟩ | ⟨absent, rfl, rfl⟩ := getElem?_step l e i found
    · have before := keeps.sessions i s hs
      cases e with
      | send j data =>
        by_cases own : j = i
        · subst own
          simp only [Event.session?, if_true, Session.meet, sent?, hs]
          cases gone : s.hungUp with
          | true => simpa [Session.send, gone] using before
          | false => simpa [gone] using before.send gone data
        · simpa [Event.session?, sent?, own] using before
      | _ =>
        simp only [sent?, Option.getD_none, List.append_nil]
        split
        · exact before.meet _ nofun
        · exact before
    · rw [keeps.nobody i absent]
      exact .start _ _
  nobody i absent := by
    have before : l.sessions[i]? = none := by
      rw [List.getElem?_eq_none_iff] at absent ⊢
      exact Nat.le_trans (length_step l e) absent
    rw [keeps.nobody i before, List.nil_append]
    cases e with
    | send j data =>
      by_cases own : j = i
      · simp [sent?, own, before]
      · simp [sent?, own]
    | _ => rfl

theorem Keeps.run {sent : Nat → List UInt8} (keeps : l.Keeps sent) (history : List Event) :
    (l.run history).Keeps fun i => sent i ++ (History.findings Listener.step (sent? i) l history).flatten := by
  induction history generalizing l sent with
  | nil => simpa [History.findings, Listener.run] using keeps
  | cons e rest ih =>
    have later := ih (keeps.step e)
    have grown (i : Nat) :
        sent i ++ (History.findings Listener.step (sent? i) l (e :: rest)).flatten =
          sent i ++ (sent? i l e).getD [] ++ (History.findings Listener.step (sent? i) (l.step e) rest).flatten := by
      rw [History.findings]
      cases sent? i l e <;> simp
    simp only [grown]
    exact later

end

theorem keeps_run (history : List Event) : (run {} history).Keeps (sent · history) := by
  have nothing : Keeps {} fun _ => [] := ⟨fun i s found => by simp at found, fun _ _ => rfl⟩
  have kept := nothing.run history
  simp only [List.nil_append] at kept
  exact kept

namespace Session

variable {s : Session} {e : Event}

theorem unready_meet (told : Bool) (waits : ∀ i, e ≠ .chainUp i) (unready : s.relayed = [] ∧ s.stage ≠ .relaying) :
    (s.meet told e).relayed = [] ∧ (s.meet told e).stage ≠ .relaying := by
  cases e with
  | chainUp i => exact absurd rfl (waits i)
  | begin | take | accept | dropSessions | stop | hangUp => exact unready
  | send i data =>
    simp only [meet, send]
    split <;> exact unready
  | read =>
    simp only [meet, read]
    repeat' split
    all_goals first | exact unready | exact ⟨unready.1, nofun⟩ | exact absurd ‹_› unready.2
  | chainDown i fault =>
    simp only [meet, chainDown]
    split
    · split <;> exact ⟨unready.1, nofun⟩
    · exact unready
  | relayEnds | notice | record | close =>
    simp only [meet, relayEnds, cancel, close]
    repeat' split
    all_goals first | exact unready | exact ⟨unready.1, nofun⟩

/-- A session goes on to relay until one side is done or it is told to end. -/
theorem relaying_meet (told : Bool) (lasts : ∀ i, e ≠ .relayEnds i) (alone : ∀ i, e ≠ .notice i)
    (relaying : s.stage = .relaying) : (s.meet told e).stage = .relaying := by
  cases e with
  | relayEnds i => exact absurd rfl (lasts i)
  | notice i => exact absurd rfl (alone i)
  | send i data =>
    simp only [meet, send]
    split <;> exact relaying
  | _ => simp [meet, read, chainUp, chainDown, close, relaying]

/-- All was relayed, and nothing is left that could be. -/
structure Settled (data : List UInt8) (s : Session) : Prop where
  opened : ∀ held, s.stage ≠ .opening held
  nothing : s.unread = []
  relayed : s.relayed = data

/-- It stays so if nothing more is sent. -/
theorem Settled.meet {data : List UInt8} (settled : s.Settled data) (told : Bool)
    (mute : ∀ i data, e ≠ .send i data) : (s.meet told e).Settled data := by
  obtain ⟨opened, nothing, relayed⟩ := settled
  cases e with
  | send i data => exact absurd rfl (mute i data)
  | begin | take | accept | dropSessions | stop | hangUp => exact ⟨opened, nothing, relayed⟩
  | read | chainUp | chainDown | relayEnds | notice | record | close =>
    cases stage : s.stage with
    | opening held => exact absurd stage (opened held)
    | _ =>
      constructor <;> cases told <;>
        simp [Session.meet, read, chainUp, chainDown, relayEnds, cancel, close, finish, stage, nothing, relayed]

end Session

section

variable {i : Nat}

theorem sent_append (before after : List Event) :
    sent i (before ++ after) =
      sent i before ++ (History.findings step (sent? i) (run {} before) after).flatten := by
  rw [sent, chunks, History.findings_append, List.flatten_append]
  rfl

theorem sent_mute (before : List Event) {after : List Event} (mute : ∀ data, .send i data ∉ after) :
    sent i (before ++ after) = sent i before := by
  have nothing : History.findings step (sent? i) (run {} before) after = [] := by
    apply History.findings_eq_nil
    intro l e member
    cases e with
    | send j data =>
      by_cases own : j = i
      · subst own
        exact absurd member (mute data)
      · simp [sent?, own]
    | _ => rfl
  rw [sent_append, nothing, List.flatten_nil, List.append_nil]

theorem exists_relaying {before after : List Event} {s : Session} {held : List UInt8}
    (found : (run {} before).sessions[i]? = some s) (opening : s.stage = .opening held)
    (lasts : .relayEnds i ∉ after) (alone : .notice i ∉ after) :
    ∃ s', (run {} (before ++ .chainUp i :: after)).sessions[i]? = some s' ∧ s'.stage = .relaying := by
  have up : ((run {} before).step (.chainUp i)).sessions[i]? = some s.chainUp := by
    simpa [Event.session?, Session.meet] using getElem?_step_of_some found (.chainUp i)
  have relaying : s.chainUp.stage = .relaying := by
    simp [Session.chainUp, opening]
  rw [run_append]
  change ∃ s', (((run {} before).step (.chainUp i)).run after).sessions[i]? = some s' ∧ _
  refine exists_run_of_kept (P := (·.stage = .relaying))
    (fun e member own s told => Session.relaying_meet told ?_ ?_) up relaying
  · rintro j rfl
    cases own
    exact lasts member
  · rintro j rfl
    cases own
    exact alone member

/-- Once its chain is up, a session relays all that its client sends, if it only reads it before it ends. -/
theorem exists_relayed_eq_sent {before after rest : List Event} {s : Session} {held : List UInt8}
    (found : (run {} before).sessions[i]? = some s) (opening : s.stage = .opening held)
    (lasts : .relayEnds i ∉ after) (alone : .notice i ∉ after) (mute : ∀ data, .send i data ∉ rest) :
    let history := before ++ .chainUp i :: after ++ .read i :: rest
    ∃ s', (run {} history).sessions[i]? = some s' ∧ s'.relayed = sent i history := by
  intro history
  obtain ⟨s₁, found₁, relaying⟩ := exists_relaying found opening lasts alone
  have all := ((keeps_run (before ++ .chainUp i :: after)).sessions i s₁ found₁).relaying relaying
  have reads : s₁.read = { s₁ with unread := [], relayed := s₁.relayed ++ s₁.unread } := by
    simp [Session.read, relaying]
  have read : ((run {} (before ++ .chainUp i :: after)).step (.read i)).sessions[i]? = some s₁.read := by
    simpa [Event.session?, Session.meet] using getElem?_step_of_some found₁ (.read i)
  have settled : s₁.read.Settled (sent i (before ++ .chainUp i :: after)) := by
    rw [reads]
    exact ⟨by simp [relaying], rfl, all⟩
  have same : sent i history = sent i (before ++ .chainUp i :: after) := by
    apply sent_mute
    intro data member
    cases member with
    | tail _ later => exact mute data later
  have mutes : ∀ e ∈ rest, e.session? = some i → ∀ j data, e ≠ .send j data := by
    rintro e member own j data rfl
    cases own
    exact mute data member
  rw [same, run_append]
  change ∃ s', (((run {} (before ++ .chainUp i :: after)).step (.read i)).run rest).sessions[i]? = some s' ∧ _
  obtain ⟨s', found', settled'⟩ := exists_run_of_kept (P := Session.Settled _)
    (fun e member own s told settled => settled.meet told (mutes e member own)) read settled
  exact ⟨s', found', settled'.relayed⟩

end

/-- What a session relays is, at any time, the beginning of what its client has sent, in order; before its chain is
up it relays nothing, and never holds more than the limit and one read less a byte. Once the chain has come up, and
the session has read what its client sent before it ends, it has relayed all of it. -/
theorem relayed_in_order (i : Nat) :
    (∀ (history : List Event) (s : Session), (run {} history).sessions[i]? = some s →
      s.relayed <+: sent i history ∧ (.chainUp i ∉ history → s.relayed = []) ∧
      (∀ held, s.stage = .opening held → s.relayed = [] ∧ held ++ s.unread = sent i history) ∧
      (s.stage = .relaying → s.relayed ++ s.unread = sent i history) ∧
      s.stage.held.length ≤ 64 * 1024 + 4095) ∧
    ∀ (before after rest : List Event) (s : Session) (held : List UInt8),
      (run {} before).sessions[i]? = some s → s.stage = .opening held →
      .relayEnds i ∉ after → .notice i ∉ after → (∀ data, .send i data ∉ rest) →
      let history := before ++ .chainUp i :: after ++ .read i :: rest
      ∃ s', (run {} history).sessions[i]? = some s' ∧ s'.relayed = sent i history := by
  refine ⟨fun history s found => ?_, fun before after rest s held => exists_relayed_eq_sent⟩
  have keeps := (keeps_run history).sessions i s found
  refine ⟨keeps.relayed, fun waits => ?_, keeps.opening, keeps.relaying, keeps.bounded⟩
  have unready := forall_run_of_kept (P := fun s => s.relayed = [] ∧ s.stage ≠ .relaying) (l := {})
    (fun _ _ => ⟨rfl, nofun⟩) (fun e member own s told => Session.unready_meet told ?_) (fun s hs => by simp at hs)
    found
  · exact unready.1
  · rintro j rfl
    cases own
    exact waits member

/-- A client that sends before its chain is up and after, and then leaves. -/
theorem relayed_in_order_mixed :
    let before : List Event := [.accept, .send 0 [1, 2], .read 0, .send 0 [3]]
    let after : List Event := [.read 0, .send 0 [4]]
    let rest : List Event := [.hangUp 0, .relayEnds 0, .close 0]
    let history := before ++ .chainUp 0 :: after ++ .read 0 :: rest
    (run {} before).sessions[0]?.map (·.stage) = some (.opening [1, 2]) ∧ .relayEnds 0 ∉ after ∧ .notice 0 ∉ after ∧
      (∀ data, .send 0 data ∉ rest) ∧ ∃ s, (run {} history).sessions[0]? = some s ∧ s.relayed = [1, 2, 3, 4] := by
  intro before after rest history
  have lasts : .relayEnds 0 ∉ after := by simp [after]
  have alone : .notice 0 ∉ after := by simp [after]
  have mute : ∀ data, .send 0 data ∉ rest := by simp [rest]
  refine ⟨rfl, lasts, alone, mute, ?_⟩
  exact (relayed_in_order 0).2 before after rest _ [1, 2] rfl rfl lasts alone mute

end Passage.Listener
