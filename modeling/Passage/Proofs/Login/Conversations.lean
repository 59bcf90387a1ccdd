import Passage.Proofs.Login.Messages

namespace Passage.Login

open Wire (Frame)

def Event.flows : Event → Bool
  | .bytes _ | .handshake _ => true
  | .ended | .broken _ => false

def flowing (events : List Event) : List UInt8 := received (events.takeWhile Event.flows)

/-- How a server leaves a conversation in which this happens. -/
def Ending.of : List Event → Ending
  | [] => .silent
  | .ended :: _ => .closes
  | .broken fault :: _ => .breaks fault
  | .bytes _ :: events | .handshake _ :: events => Ending.of events

theorem flowing_reads (datas : List (List UInt8)) (ending : Ending) :
    flowing (datas.map .bytes ++ ending.events) = datas.flatten := by
  induction datas with
  | nil => cases ending <;> rfl
  | cons data datas ih => exact congrArg (data ++ ·) ih

namespace Session

variable {p : Scram.Primitives} {c : Credentials} {s : Session}

/-- Events are heard as reads and an end. -/
theorem attend_flowing (p : Scram.Primitives) (c : Credentials) (s : Session) (events : List Event) :
    ∃ datas : List (List UInt8), datas.flatten = flowing events ∧
      s.attend p c events = s.attend p c (datas.map .bytes ++ (Ending.of events).events) := by
  induction events generalizing s with
  | nil => exact ⟨[], rfl, rfl⟩
  | cons event events ih =>
    cases event with
    | bytes data =>
      obtain ⟨datas, brought, same⟩ := ih (s.feed p c data)
      refine ⟨data :: datas, ?_, same⟩
      rw [List.flatten_cons, brought]
      rfl
    | handshake succeeded =>
      obtain ⟨datas, brought, same⟩ := ih s
      exact ⟨datas, brought, same⟩
    | ended => exact ⟨[], rfl, attend_over (isOver_fail s _) events⟩
    | broken fault => exact ⟨[], rfl, attend_over (isOver_fail s _) events⟩

/-- Whatever happens, it leaves the session where its messages and the end do. -/
theorem attend_events {events : List Event} {frames : List Frame} {tail : List UInt8}
    (heard : flowing events = frames.flatMap Frame.bytes ++ tail) :
    ((start c).attend p c events).SameButUnread
      ((start c).left p c frames tail (Ending.of events)) := by
  obtain ⟨datas, brought, same⟩ := attend_flowing p c (start c) events
  rw [same]
  exact attend_conversation (brought.trans heard) _

end Session

namespace Connection

variable {p : Scram.Primitives} {conn : Connection}

theorem receive_begins (unbegun : ∀ s, conn.step ≠ .talking s) {event : Event} {s : Session}
    (talks : (conn.receive p event).step = .talking s) : s = Session.start conn.credentials := by
  unfold receive at talks
  split at talks
  · rename_i settings byte rest _
    rcases answer_cases conn settings byte rest with ⟨-, -, name, shakes⟩ | ⟨fault, refused⟩
    · rw [shakes] at talks
      cases talks
    · rw [refused] at talks
      cases talks
  · cases talks
  · cases talks
  · exact (Step.talking.inj talks).symm
  · cases talks
  · cases talks
  · cases talks
  · rename_i begun
    exact absurd begun (unbegun _)
  · exact absurd talks (unbegun s)

theorem run_begins {events : List Event} {s : Session}
    (fresh : ∀ t, conn.step = .talking t → t = Session.start conn.credentials)
    (talks : (conn.run p events).step = .talking s) :
    ∃ opening rest, events = opening ++ rest ∧
      (conn.run p opening).step = .talking (Session.start conn.credentials) := by
  induction events generalizing conn with
  | nil =>
    obtain rfl := fresh s talks
    exact ⟨[], [], rfl, talks⟩
  | cons event events ih =>
    by_cases begun : ∃ t, conn.step = .talking t
    · obtain ⟨t, begun⟩ := begun
      obtain rfl := fresh t begun
      exact ⟨[], event :: events, rfl, begun⟩
    · have same := receive_credentials p conn event
      have fresh' : ∀ t, (conn.receive p event).step = .talking t →
          t = Session.start (conn.receive p event).credentials := by
        intro t talks
        rw [same]
        exact receive_begins (fun s h => begun ⟨s, h⟩) talks
      obtain ⟨opening, rest, rfl, reached⟩ := ih fresh' talks
      exact ⟨event :: opening, rest, rfl, same ▸ reached⟩

/-- Whatever is the matter with a connection on which no login began, the database has not said so. -/
def Unblaming (conn : Connection) : Prop :=
  ∀ fault, conn.step = .refused fault → ∀ message uri, fault ≠ .databaseConnect message uri

theorem unblaming_refuse (conn : Connection) {fault : Fault}
    (other : ∀ message uri, fault ≠ .databaseConnect message uri) : (conn.refuse fault).Unblaming := by
  intro fault' refused
  cases refused
  exact other

theorem unblaming_answer (conn : Connection) (settings : Tls.Settings) (byte : UInt8) (rest : List UInt8) :
    (conn.answer settings byte rest).Unblaming := by
  unfold answer
  split
  · split
    · split
      · nofun
      · exact unblaming_refuse conn nofun
    · exact unblaming_refuse conn nofun
  · split
    · exact unblaming_refuse conn nofun
    · exact unblaming_refuse conn nofun

theorem Unblaming.receive (h : conn.Unblaming) (p : Scram.Primitives) (event : Event) :
    (conn.receive p event).Unblaming := by
  unfold Connection.receive
  split
  · exact unblaming_answer conn _ _ _
  · exact unblaming_refuse conn nofun
  · exact unblaming_refuse conn nofun
  · nofun
  · exact unblaming_refuse conn nofun
  · exact unblaming_refuse conn nofun
  · exact unblaming_refuse conn nofun
  · nofun
  · exact h

theorem Unblaming.run (h : conn.Unblaming) (p : Scram.Primitives) (events : List Event) :
    (conn.run p events).Unblaming := by
  induction events generalizing conn with
  | nil => exact h
  | cons event events ih => exact ih (h.receive p event)

end Connection

variable {ls : Settings} {around : Surroundings} {r : DriverRequest}

/-- A login begins on the attempt, and these are the whole messages that the server says in it. -/
inductive Converses (ls : Settings) (around : Surroundings) (r : DriverRequest) :
    Peer → List Frame → Prop where
  | intro {before : Nat} {opening timed : List (Nat × Event)} {frames : List Frame} {tail : List UInt8}
      (begins : (connect ls around r (.ends before (.ok opening))).connection.map (·.step) =
        some (.talking (Session.start (credentialsFor ls around r))))
      (heard : flowing (timed.map Prod.snd) = frames.flatMap Frame.bytes ++ tail)
      (cut : ∀ outcome rest, Wire.intake tail ≠ .taken outcome rest) :
      Converses ls around r (.ends before (.ok (opening ++ timed))) frames

/-- What reaches the client of a conversation is one. -/
theorem converses_conversation {before : Nat} {opening : List (Nat × Event)}
    {reads : List (Nat × List UInt8)} {frames : List Frame} {tail : List UInt8}
    (begins : (connect ls around r (.ends before (.ok opening))).connection.map (·.step) =
      some (.talking (Session.start (credentialsFor ls around r))))
    (heard : stream reads = frames.flatMap Frame.bytes ++ tail)
    (cut : ∀ outcome rest, Wire.intake tail ≠ .taken outcome rest) (ending : Ending) (last : Nat) :
    Converses ls around r (.ends before (.ok (opening ++ conversation reads ending last))) frames := by
  refine .intro begins ?_ cut
  rw [conversation_events, flowing_reads]
  exact heard

/-- Every attempt on which a login began is a conversation. -/
theorem exists_converses {peer : Peer} {conn : Connection} {s : Session}
    (made : (connect ls around r peer).connection = some conn) (talks : conn.step = .talking s) :
    ∃ frames, Converses ls around r peer frames := by
  obtain ⟨tls, before, words, -, rfl, runs⟩ := connect_dialled made
  let fresh := Connection.start (credentialsFor ls around r) r.serverName tls
  obtain rfl : conn = fresh.run around.primitives (words.map Prod.snd) :=
    Option.some.inj (made.symm.trans (runs words).1)
  have own : fresh.credentials = credentialsFor ls around r := by cases tls <;> rfl
  have begun : ∀ t, fresh.step = .talking t → t = Session.start fresh.credentials := by
    cases tls with
    | none => exact fun t talks => (Step.talking.inj talks).symm
    | some settings => nofun
  obtain ⟨early, late, events, began⟩ := Connection.run_begins begun talks
  obtain ⟨opening, timed, rfl, rfl, rfl⟩ := List.map_eq_append_iff.mp events
  obtain ⟨frames, tail, heard, cut⟩ := Wire.exists_frames (flowing (timed.map Prod.snd))
  refine ⟨frames, .intro ?_ heard cut⟩
  rw [(runs opening).1, Option.map_some, began, own]

/-- A conversation leaves the session where its messages do, unless it ends over something else. -/
theorem Converses.ends {peer : Peer} {frames : List Frame} (h : Converses ls around r peer frames) :
    let c := credentialsFor ls around r
    let a := connect ls around r peer
    ∃ conn s, a.connection = some conn ∧ conn.step = .talking s ∧
      a.course.outcome? =
        conn.outcome?.map (fun result => result.map fun _ => Opened.of r.sslMode conn) ∧
      ((Session.start c).reads around.primitives c frames).Ends s := by
  intro c a
  cases h with
  | @intro before opening timed frames tail begins heard cut =>
    obtain ⟨conn, talks, own, comes⟩ := connect_began begins
    obtain ⟨outcome, made⟩ := comes timed
    refine ⟨_, (Session.start c).attend around.primitives c (timed.map Prod.snd), made, ?_, outcome, ?_⟩
    · rw [Connection.talking_run _ talks, own]
      rfl
    · exact (Session.left_ends around.primitives c (Session.start c) frames cut _).trans
        (Session.attend_events heard)

end Passage.Login
