import Passage.Login.Connection

namespace Passage.Login

open Wire (Packet Reply)

namespace Exchange

theorem listen_packets {c : Credentials} {e : Exchange} {mechanism : Option Report.Mechanism}
    {reply : Reply} {packet : Packet} (h : packet ∈ (e.listen c mechanism reply).packets) :
    packet.authenticates = true := by
  cases reply with
  | auth request =>
    cases request with
    | ok => simp [listen, accepted] at h
    | cleartext =>
      simp only [listen, answerCleartext] at h
      split at h
      · simp [fail] at h
      · obtain rfl := List.mem_singleton.mp h
        rfl
    | md5 => simp [listen, fail] at h
    | sasl mechanisms =>
      simp only [listen, answerOffer] at h
      split at h
      · simp [fail] at h
      · split at h
        · simp [fail] at h
        · obtain rfl := List.mem_singleton.mp h
          rfl
    | saslContinue data => simp [listen, fail] at h
    | saslFinal data => simp [listen, fail] at h
  | keyData processId secretKey => simp [listen] at h
  | parameter name value => simp [listen] at h
  | notice n => simp [listen] at h
  | error n => simp [listen, fail] at h
  | ready status => simp [listen] at h

theorem prove_packets {p : Scram.Primitives} {e : Exchange} {client : Scram.Client} {reply : Reply}
    {packet : Packet} (h : packet ∈ (e.prove p client reply).packets) :
    packet.authenticates = true := by
  unfold prove at h
  split at h
  · split at h
    · simp [fail] at h
    · split at h
      · simp [fail] at h
      · obtain rfl := List.mem_singleton.mp h
        rfl
  · simp [fail] at h
  · simp [fail] at h

theorem verify_packets (p : Scram.Primitives) (e : Exchange) (verifier : Scram.Verifier)
    (reply : Reply) : (e.verify p verifier reply).packets = [] := by
  unfold verify
  split
  · split
    · rfl
    · split <;> rfl
  · rfl
  · rfl

/-- Whatever the server says, the client answers with nothing but proofs of who it is. -/
theorem receive_packets {p : Scram.Primitives} {c : Credentials} {e : Exchange} {reply : Reply}
    {packet : Packet} (h : packet ∈ (e.receive p c reply).packets) :
    packet.authenticates = true := by
  unfold receive at h
  split at h
  · exact listen_packets h
  · exact prove_packets h
  · simp [verify_packets] at h
  all_goals simp at h

end Exchange

namespace Session

/-- A session that goes on from `s` to `t` takes nothing back, and only proves who the client is. -/
def Extends (s t : Session) : Prop :=
  ∃ packets, t.sent = s.sent ++ packets ∧ ∀ packet ∈ packets, packet.authenticates = true

theorem Extends.refl (s : Session) : s.Extends s :=
  ⟨[], by simp, by simp⟩

theorem Extends.trans {s t u : Session} (hst : s.Extends t) (htu : t.Extends u) : s.Extends u := by
  obtain ⟨a, ha, hpa⟩ := hst
  obtain ⟨b, hb, hpb⟩ := htu
  refine ⟨a ++ b, by rw [hb, ha, List.append_assoc], ?_⟩
  intro packet hm
  rcases List.mem_append.mp hm with hm | hm
  · exact hpa packet hm
  · exact hpb packet hm

theorem fail_extends (s : Session) (fault : Fault) : s.Extends (s.fail fault) := by
  unfold fail
  split
  · exact .refl s
  · exact ⟨[], by simp [take, Exchange.fail], by simp⟩

theorem settle_extends (p : Scram.Primitives) (c : Credentials) (s : Session) :
    s.Extends (s.settle p c) := by
  induction s using settle.induct p c with
  | case1 s finished =>
    rw [settle_over finished]
    exact .refl s
  | case2 s unfinished starved =>
    rw [settle_starved unfinished starved]
    exact .refl s
  | case3 s unfinished fault misframed =>
    rw [settle_misframed unfinished misframed]
    exact fail_extends s _
  | case4 s unfinished fault rest taken =>
    rw [settle_unreadable unfinished taken]
    exact fail_extends { s with buffer := rest } _
  | case5 s unfinished reply rest taken ih =>
    rw [settle_reply unfinished taken]
    exact Extends.trans ⟨_, rfl, fun packet hm => Exchange.receive_packets hm⟩ ih

theorem hear_extends (p : Scram.Primitives) (c : Credentials) (s : Session) (event : Event) :
    s.Extends (s.hear p c event) := by
  cases event with
  | bytes data =>
    simp only [hear, feed]
    split
    · exact .refl s
    · exact settle_extends p c { s with buffer := s.buffer ++ data }
  | ended => exact fail_extends s _
  | broken fault => exact fail_extends s _
  | handshake succeeded => exact .refl s

def attend (p : Scram.Primitives) (c : Credentials) (s : Session) (events : List Event) : Session :=
  events.foldl (hear p c) s

theorem attend_extends (p : Scram.Primitives) (c : Credentials) (s : Session) (events : List Event) :
    s.Extends (s.attend p c events) := by
  induction events generalizing s with
  | nil => exact .refl s
  | cons event events ih => exact (hear_extends p c s event).trans (ih _)

/-- A login opens with the startup message and says nothing else but who the client is. -/
theorem attend_sent (p : Scram.Primitives) (c : Credentials) (events : List Event) :
    ∃ proofs, ((start c).attend p c events).sent = c.startup :: proofs ∧
      ∀ packet ∈ proofs, packet.authenticates = true :=
  attend_extends p c (start c) events

end Session

namespace Connection

variable (p : Scram.Primitives)

theorem run_append (c : Connection) (before after : List Event) :
    c.run p (before ++ after) = (c.run p before).run p after :=
  List.foldl_append

theorem proceed_self {c : Connection} {s : Session} (talks : c.step = .talking s) :
    c.proceed s s = c := by
  cases c
  simp_all [proceed, write]

theorem proceed_proceed (c : Connection) {s t u : Session} (hst : s.Extends t)
    (htu : t.Extends u) : (c.proceed s t).proceed t u = c.proceed s u := by
  obtain ⟨said, hsaid, -⟩ := hst
  obtain ⟨more, hmore, -⟩ := htu
  simp [proceed, write, hsaid, hmore]

theorem receive_talking {c : Connection} {s : Session} (talks : c.step = .talking s)
    (event : Event) : c.receive p event = c.proceed s (s.hear p c.credentials event) := by
  unfold receive
  rw [talks]

/-- A connection that talks goes on talking on the same stream: it is the session that hears what
happens, and whatever the session says is written. -/
theorem talking_run {c : Connection} {s : Session} (talks : c.step = .talking s)
    (events : List Event) :
    c.run p events = c.proceed s (s.attend p c.credentials events) := by
  induction events generalizing c s with
  | nil => exact (proceed_self talks).symm
  | cons event events ih =>
    have now := Session.hear_extends p c.credentials s event
    have later := Session.attend_extends p c.credentials (s.hear p c.credentials event) events
    change (c.receive p event).run p events = _
    rw [receive_talking p talks, ih rfl]
    exact proceed_proceed c now later

/-- A login from its beginning: everything its session has said was written on the stream that it
began on. -/
theorem login_run (c : Connection) (events : List Event) :
    c.login.run p events =
      { c with
        step := .talking ((Session.start c.credentials).attend p c.credentials events)
        written := c.written ++
          ((Session.start c.credentials).attend p c.credentials events).sent.map
            fun packet => ⟨c.secured, packet⟩ } := by
  obtain ⟨proofs, hsent, -⟩ := Session.attend_sent p c.credentials events
  have hstart : (Session.start c.credentials).sent = [c.credentials.startup] := rfl
  have talks : c.login.step = .talking (Session.start c.credentials) := rfl
  have hcredentials : c.login.credentials = c.credentials := rfl
  rw [talking_run p talks, hcredentials]
  simp [login, proceed, write, hstart, hsent]

end Connection
end Passage.Login
