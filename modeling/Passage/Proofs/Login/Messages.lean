import Passage.Proofs.Login.Reads
import Passage.Proofs.Wire.Writing

namespace Passage

/-- Every stream is some whole messages and then none. -/
theorem Wire.exists_frames (data : List UInt8) :
    ∃ (frames : List Frame) (tail : List UInt8), data = frames.flatMap Frame.bytes ++ tail ∧
      ∀ outcome rest, intake tail ≠ .taken outcome rest := by
  induction size : data.length using Nat.strong_induction_on generalizing data with
  | h n ih =>
    rcases intake_cases data with starved | ⟨tag, a, b, c, d, rest, rfl, misframed⟩ | ⟨f, rest, rfl⟩
    · exact ⟨[], data, rfl, fun outcome rest taken => nomatch starved.symm.trans taken⟩
    · exact ⟨[], _, rfl, fun outcome rest taken =>
        nomatch (intake_misframed misframed tag _).symm.trans taken⟩
    · have shorter : rest.length < n := by
        rw [← size, List.length_append, Frame.bytes]
        simp only [List.length_cons]
        omega
      obtain ⟨frames, tail, rfl, cut⟩ := ih rest.length shorter rest rfl
      exact ⟨f :: frames, tail, by rw [List.flatMap_cons, List.append_assoc], cut⟩

namespace Login

open Wire (Frame Packet Reply)

namespace Session

variable {p : Scram.Primitives} {c : Credentials} {s t u : Session}

theorem SameButUnread.refl (s : Session) : s.SameButUnread s :=
  ⟨s.buffer, rfl⟩

theorem SameButUnread.trans (hst : s.SameButUnread t) (htu : t.SameButUnread u) : s.SameButUnread u := by
  obtain ⟨left, rfl⟩ := hst
  obtain ⟨left', rfl⟩ := htu
  exact ⟨left, rfl⟩

/-- The session with these bytes before it. -/
def holding (s : Session) (data : List UInt8) : Session :=
  { s with buffer := data }

theorem isOver_of_failed {fault : Fault} (failed : s.exchange.stage = .failed fault) : s.isOver = true := by
  unfold isOver Exchange.isOver
  rw [failed]

theorem isOver_of_ready (ready : s.exchange.stage = .ready) : s.isOver = true := by
  unfold isOver Exchange.isOver
  rw [ready]

theorem fail_cases (s : Session) (fault : Fault) :
    s.fail fault = s ∨ (s.fail fault).sent = s.sent ∧ (s.fail fault).exchange.stage = .failed fault := by
  unfold fail
  split
  · exact .inl rfl
  · exact .inr ⟨List.append_nil _, rfl⟩

theorem settle_holding_over (finished : s.isOver = true) (data : List UInt8) :
    (s.holding data).settle p c = s.holding data :=
  settle_over finished

theorem fail_holding (unfinished : ¬ s.isOver = true) (data : List UInt8) (fault : Fault) :
    (s.holding data).fail fault = (s.fail fault).holding data := by
  have same : (s.holding data).isOver = s.isOver := rfl
  rw [fail, fail, same, if_neg unfinished, if_neg unfinished]
  rfl

/-- One whole message. -/
def read (p : Scram.Primitives) (c : Credentials) (s : Session) (f : Frame) : Session :=
  if s.isOver then s
  else
    match f.reading with
    | .error fault => s.fail (.protocol fault.text)
    | .ok reply => s.take (s.exchange.receive p c reply)

/-- One whole message after another. -/
def reads (p : Scram.Primitives) (c : Credentials) (s : Session) (frames : List Frame) : Session :=
  frames.foldl (read p c) s

theorem read_over (finished : s.isOver = true) (f : Frame) : s.read p c f = s :=
  if_pos finished

theorem read_unreadable (unfinished : ¬ s.isOver = true) {f : Frame} {fault : Wire.ReplyFault}
    (unreadable : f.reading = .error fault) : s.read p c f = s.fail (.protocol fault.text) := by
  rw [read, if_neg unfinished, unreadable]

theorem read_reply (unfinished : ¬ s.isOver = true) {f : Frame} {reply : Reply}
    (reads : f.reading = .ok reply) : s.read p c f = s.take (s.exchange.receive p c reply) := by
  rw [read, if_neg unfinished, reads]

theorem reads_over (finished : s.isOver = true) (frames : List Frame) : s.reads p c frames = s := by
  induction frames with
  | nil => rfl
  | cons f frames ih =>
    change (s.read p c f).reads p c frames = s
    rw [read_over finished, ih]

/-- Whole messages at the front of the buffer are read one after another. -/
theorem settle_frames (frames : List Frame) (tail : List UInt8) (s : Session) :
    ((s.holding (frames.flatMap Frame.bytes ++ tail)).settle p c).SameButUnread
      (((s.reads p c frames).holding tail).settle p c) := by
  induction frames generalizing s with
  | nil => exact .refl _
  | cons f frames ih =>
    by_cases finished : s.isOver = true
    · rw [reads_over finished, settle_holding_over finished, settle_holding_over finished]
      exact ⟨_, rfl⟩
    have still : ¬ (s.holding ((f :: frames).flatMap Frame.bytes ++ tail)).isOver = true := finished
    have taken : Wire.intake (s.holding ((f :: frames).flatMap Frame.bytes ++ tail)).buffer =
        .taken f.reading (frames.flatMap Frame.bytes ++ tail) := by
      change Wire.intake ((f :: frames).flatMap Frame.bytes ++ tail) = _
      rw [List.flatMap_cons, List.append_assoc]
      exact Wire.intake_frame f _
    change Session.SameButUnread _ ((((s.read p c f).reads p c frames).holding tail).settle p c)
    cases reading : f.reading with
    | error fault =>
      rw [reading] at taken
      rw [settle_unreadable still taken, read_unreadable finished reading,
        reads_over (isOver_fail s _), settle_holding_over (isOver_fail s _)]
      exact ⟨_, fail_holding finished _ _⟩
    | ok reply =>
      rw [reading] at taken
      rw [settle_reply still taken, read_reply finished reading]
      exact ih (s.take (s.exchange.receive p c reply))

end Session

/-- How a server leaves a conversation. -/
inductive Ending where
  | closes
  | breaks (fault : IoFault)
  | silent

def Ending.events : Ending → List Event
  | .closes => [.ended]
  | .breaks fault => [.broken fault]
  | .silent => []

namespace Session

variable {p : Scram.Primitives} {c : Credentials} {s t u : Session}

theorem SameButUnread.attend (h : s.SameButUnread t) (ending : Ending) :
    (s.attend p c ending.events).SameButUnread (t.attend p c ending.events) := by
  cases ending with
  | closes => exact h.fail _
  | breaks fault => exact h.fail _
  | silent => exact h

theorem attend_over (finished : s.isOver = true) (events : List Event) : s.attend p c events = s := by
  induction events with
  | nil => rfl
  | cons event events ih =>
    change (s.hear p c event).attend p c events = s
    rw [hear_over finished, ih]

/-- Where a session is left by whole messages, what comes behind them, and the end. -/
def left (p : Scram.Primitives) (c : Credentials) (s : Session) (frames : List Frame) (tail : List UInt8)
    (ending : Ending) : Session :=
  (((s.reads p c frames).holding tail).settle p c).attend p c ending.events

theorem left_over {frames : List Frame} (finished : (s.reads p c frames).isOver = true)
    (tail : List UInt8) (ending : Ending) :
    s.left p c frames tail ending = (s.reads p c frames).holding tail := by
  unfold left
  rw [settle_holding_over finished]
  exact attend_over (s := (s.reads p c frames).holding tail) finished ending.events

/-- What can end a login besides its messages. -/
inductive Unsaid : Fault → Prop where
  | misframed (fault : Wire.ReplyFault) : Unsaid (.protocol fault.text)
  | closed : Unsaid .connectionClosed
  | broken (fault : IoFault) : Unsaid (.io fault)

/-- From `s` to `t` nothing was said, and at most the session has failed over something else. -/
def Ends (s t : Session) : Prop :=
  t.SameButUnread s ∨ ∃ fault, Unsaid fault ∧ t.SameButUnread (s.fail fault)

theorem Ends.trans (hst : s.Ends t) (hut : u.SameButUnread t) : s.Ends u := by
  rcases hst with same | ⟨fault, unsaid, same⟩
  · exact .inl (hut.trans same)
  · exact .inr ⟨fault, unsaid, hut.trans same⟩

/-- What comes behind whole messages and is none, and the end of the stream, say nothing. -/
theorem left_ends (p : Scram.Primitives) (c : Credentials) (s : Session) (frames : List Frame)
    {tail : List UInt8} (cut : ∀ outcome rest, Wire.intake tail ≠ .taken outcome rest) (ending : Ending) :
    (s.reads p c frames).Ends (s.left p c frames tail ending) := by
  by_cases finished : (s.reads p c frames).isOver = true
  · rw [left_over finished]
    exact .inl ⟨tail, rfl⟩
  have still : ¬ ((s.reads p c frames).holding tail).isOver = true := finished
  have held : ((s.reads p c frames).holding tail).SameButUnread (s.reads p c frames) := ⟨tail, rfl⟩
  unfold left
  cases taken : Wire.intake tail with
  | starved =>
    rw [settle_starved still taken]
    cases ending with
    | closes => exact .inr ⟨_, .closed, held.fail _⟩
    | breaks fault => exact .inr ⟨_, .broken fault, held.fail _⟩
    | silent => exact .inl held
  | misframed fault =>
    rw [settle_misframed still taken, attend_over (isOver_fail _ _)]
    exact .inr ⟨_, .misframed fault, held.fail _⟩
  | taken outcome rest => exact absurd taken (cut outcome rest)

/-- However a conversation is cut into reads, it leaves the session where its messages do. -/
theorem attend_conversation {datas : List (List UInt8)} {frames : List Frame} {tail : List UInt8}
    (heard : datas.flatten = frames.flatMap Frame.bytes ++ tail) (ending : Ending) :
    ((start c).attend p c (datas.map .bytes ++ ending.events)).SameButUnread
      ((start c).left p c frames tail ending) := by
  have settled : (start c).settle p c = start c := settle_starved nofun rfl
  have whole := attend_reads settled datas
  rw [heard] at whole
  unfold attend at whole ⊢
  rw [List.foldl_append]
  exact (whole.trans (settle_frames frames tail (start c))).attend ending

theorem read_extends (p : Scram.Primitives) (c : Credentials) (s : Session) (f : Frame) :
    s.Extends (s.read p c f) := by
  unfold read
  split
  · exact .refl s
  · split
    · exact fail_extends s _
    · exact ⟨_, rfl, fun packet member => Exchange.receive_packets member⟩

theorem reads_extends (p : Scram.Primitives) (c : Credentials) (s : Session) (frames : List Frame) :
    s.Extends (s.reads p c frames) := by
  induction frames generalizing s with
  | nil => exact .refl s
  | cons f frames ih => exact (read_extends p c s f).trans (ih _)

theorem Extends.length_eq (h : s.Extends t) (same : s.sentBytes = t.sentBytes) :
    t.sent.length = s.sent.length := by
  obtain ⟨more, said, -⟩ := h
  have none_said : more.flatMap Packet.encode = [] := by
    unfold sentBytes at same
    rw [said, List.flatMap_append] at same
    exact List.append_right_eq_self.mp same.symm
  cases more with
  | nil => rw [said, List.append_nil]
  | cons packet more =>
    rw [List.flatMap_cons, List.append_eq_nil_iff] at none_said
    simp [Packet.encode, Wire.word] at none_said

theorem left_extends (p : Scram.Primitives) (c : Credentials) (s : Session) (frames : List Frame)
    (tail : List UInt8) (ending : Ending) : s.Extends (s.left p c frames tail ending) := by
  have settled := settle_extends p c ((s.reads p c frames).holding tail)
  exact ((reads_extends p c s frames).trans settled).trans (attend_extends p c _ ending.events)

def hears (p : Scram.Primitives) (c : Credentials) (s : Session) (replies : List Reply) : Session :=
  replies.foldl (fun s reply => if s.isOver then s else s.take (s.exchange.receive p c reply)) s

theorem reads_hears (p : Scram.Primitives) (c : Credentials) (s : Session) (replies : List Reply)
    (frames : List Frame) (reading : frames.map Frame.reading = replies.map .ok) :
    s.reads p c frames = s.hears p c replies := by
  induction frames generalizing s replies with
  | nil =>
    rw [List.map_eq_nil_iff.mp reading.symm]
    rfl
  | cons f frames ih =>
    cases replies with
    | nil => cases reading
    | cons reply replies =>
      obtain ⟨first, rest⟩ := List.cons.inj reading
      have now : s.read p c f = if s.isOver then s else s.take (s.exchange.receive p c reply) := by
        rw [read, first]
      change (s.read p c f).reads p c frames = _
      rw [now]
      exact ih _ _ rest

end Session

def Exchange.isReady (e : Exchange) : Bool :=
  match e.stage with
  | .ready => true
  | _ => false

theorem Exchange.stage_of_isReady {e : Exchange} (ready : e.isReady = true) : e.stage = .ready := by
  unfold isReady at ready
  split at ready
  · assumption
  · cases ready

abbrev Short := { m : Wire.Message // m.body.length + 4 ≤ Wire.maxLength }

namespace Short

def frame (m : Short) : Frame := m.val.frame m.property

def reply (m : Short) : Reply := m.val.meaning

theorem reading (messages : List Short) :
    (messages.map frame).map Frame.reading = (messages.map reply).map .ok := by
  rw [List.map_map, List.map_map]
  exact List.map_congr_left fun m _ => Wire.read_meaning m.val

end Short

namespace Connection

theorem answer_credentials (conn : Connection) (settings : Tls.Settings) (byte : UInt8)
    (rest : List UInt8) : (conn.answer settings byte rest).credentials = conn.credentials := by
  unfold answer
  split
  · split
    · split <;> rfl
    · rfl
  · split <;> rfl

theorem receive_credentials (p : Scram.Primitives) (conn : Connection) (event : Event) :
    (conn.receive p event).credentials = conn.credentials := by
  unfold receive
  split
  · exact answer_credentials conn _ _ _
  all_goals rfl

theorem run_credentials (p : Scram.Primitives) (conn : Connection) (events : List Event) :
    (conn.run p events).credentials = conn.credentials := by
  induction events generalizing conn with
  | nil => rfl
  | cons event events ih => exact (ih _).trans (receive_credentials p conn event)

/-- What can be told of a connection that talks without a look at what it has not read. -/
theorem proceed_eq {s t : Session} (h : s.SameButUnread t) (conn : Connection) (before : Session)
    (mode : SslMode) :
    let a := conn.proceed before s
    let b := conn.proceed before t
    a.outcome? = b.outcome? ∧ Opened.of mode a = Opened.of mode b ∧ a.sentBytes = b.sentBytes := by
  obtain ⟨left, rfl⟩ := h
  exact ⟨rfl, rfl, rfl⟩

theorem proceed_sentBytes (conn : Connection) {s t : Session} (h : s.Extends t) :
    ∃ more, t.sentBytes = s.sentBytes ++ more ∧ (conn.proceed s t).sentBytes = conn.sentBytes ++ more := by
  obtain ⟨said, sent, -⟩ := h
  refine ⟨said.flatMap Packet.encode, ?_, ?_⟩
  · rw [Session.sentBytes, sent, List.flatMap_append]
    rfl
  · unfold proceed write sentBytes
    rw [sent, List.drop_left, List.flatMap_append, List.flatMap_map]

/-- A connection that talks has failed as its login has. -/
theorem outcome?_failed_iff {conn : Connection} {s : Session} (talks : conn.step = .talking s)
    {fault : Fault} : conn.outcome? = some (.error fault) ↔ s.exchange.stage = .failed fault := by
  unfold outcome?
  rw [talks]
  dsimp only
  cases s.exchange.stage <;> simp

theorem outcome?_proceed_failed_iff (conn : Connection) (s t : Session) {fault : Fault} :
    (conn.proceed s t).outcome? = some (.error fault) ↔ t.exchange.stage = .failed fault :=
  outcome?_failed_iff rfl

theorem outcome?_proceed_ready (conn : Connection) (s : Session) {t : Session}
    (ready : t.exchange.stage = .ready) : (conn.proceed s t).outcome? = some (.ok ()) := by
  have talks : (conn.proceed s t).step = .talking t := rfl
  unfold outcome?
  rw [talks]
  dsimp only
  rw [ready]

end Connection

section

variable {ls : Settings} {around : Surroundings} {r : DriverRequest} {before : Nat}
  {opening : List (Nat × Event)}

/-- An attempt on which the login has begun goes on with what its connection then hears. -/
theorem connect_began
    (begins : (connect ls around r (.ends before (.ok opening))).connection.map (·.step) =
      some (.talking (Session.start (credentialsFor ls around r)))) :
    ∃ conn : Connection, conn.step = .talking (Session.start (credentialsFor ls around r)) ∧
      conn.credentials = credentialsFor ls around r ∧ ∀ timed : List (Nat × Event),
        let d := conn.run around.primitives (timed.map Prod.snd)
        let a := connect ls around r (.ends before (.ok (opening ++ timed)))
        a.course.outcome? = d.outcome?.map (fun result => result.map fun _ => Opened.of r.sslMode d) ∧
          a.connection = some d := by
  obtain ⟨begun, made, talks⟩ := Option.map_eq_some_iff.mp begins
  obtain ⟨tls, before, words, -, dialled, runs⟩ := connect_dialled made
  cases dialled
  let fresh := Connection.start (credentialsFor ls around r) r.serverName tls
  obtain rfl : begun = fresh.run around.primitives (opening.map Prod.snd) :=
    Option.some.inj (made.symm.trans (runs opening).1)
  refine ⟨_, talks, ?_, fun timed => ?_⟩
  · rw [Connection.run_credentials]
    cases tls <;> rfl
  · obtain ⟨last, comes⟩ := runs (opening ++ timed)
    rw [List.map_append, Connection.run_append] at last comes
    exact ⟨comes, last⟩

/-- What reaches the client of a conversation: reads, each so long after the one before, and the end. -/
def conversation (reads : List (Nat × List UInt8)) (ending : Ending) (last : Nat) : List (Nat × Event) :=
  reads.map (fun (delay, data) => (delay, .bytes data)) ++ ending.events.map fun event => (last, event)

theorem conversation_events (reads : List (Nat × List UInt8)) (ending : Ending) (last : Nat) :
    (conversation reads ending last).map Prod.snd =
      (reads.map Prod.snd).map .bytes ++ ending.events := by
  simp [conversation, Function.comp_def]

/-- What an attempt comes to and sends is told by the messages of the server, what comes behind them and the
end, however the bytes are cut into reads. -/
theorem connect_conversation
    (begins : (connect ls around r (.ends before (.ok opening))).connection.map (·.step) =
      some (.talking (Session.start (credentialsFor ls around r)))) :
    let s := Session.start (credentialsFor ls around r)
    ∃ conn : Connection, ∀ {reads : List (Nat × List UInt8)} {frames : List Frame} {tail : List UInt8},
      stream reads = frames.flatMap Frame.bytes ++ tail → ∀ (ending : Ending) (last : Nat),
        let d := conn.proceed s
          (s.left around.primitives (credentialsFor ls around r) frames tail ending)
        let a := connect ls around r (.ends before (.ok (opening ++ conversation reads ending last)))
        a.course.outcome? = d.outcome?.map (fun result => result.map fun _ => Opened.of r.sslMode d) ∧
          a.connection.map (·.sentBytes) = some d.sentBytes := by
  intro s
  obtain ⟨conn, talks, credentials, comes⟩ := connect_began begins
  refine ⟨conn, ?_⟩
  intro reads frames tail heard ending last
  obtain ⟨outcome, made⟩ := comes (conversation reads ending last)
  rw [conversation_events, Connection.talking_run _ talks, credentials] at outcome made
  obtain ⟨same, opened, bytes⟩ := Connection.proceed_eq
    (Session.attend_conversation (p := around.primitives) heard ending) conn s r.sslMode
  rw [same, opened] at outcome
  exact ⟨outcome, (congrArg (Option.map (·.sentBytes)) made).trans (congrArg some bytes)⟩

theorem conversation_failed
    (begins : (connect ls around r (.ends before (.ok opening))).connection.map (·.step) =
      some (.talking (Session.start (credentialsFor ls around r))))
    {reads : List (Nat × List UInt8)} {frames : List Frame} {tail : List UInt8}
    (heard : stream reads = frames.flatMap Frame.bytes ++ tail) {ending : Ending} {last : Nat} {fault : Fault}
    (failed : ((Session.start (credentialsFor ls around r)).left around.primitives
      (credentialsFor ls around r) frames tail ending).exchange.stage = .failed fault) :
    (connect ls around r
      (.ends before (.ok (opening ++ conversation reads ending last)))).course.outcome? =
        some (.error fault) := by
  obtain ⟨conn, comes⟩ := connect_conversation begins
  rw [(comes heard ending last).1, (Connection.outcome?_proceed_failed_iff conn _ _).mpr failed]
  rfl

theorem conversation_ready
    (begins : (connect ls around r (.ends before (.ok opening))).connection.map (·.step) =
      some (.talking (Session.start (credentialsFor ls around r))))
    {reads : List (Nat × List UInt8)} {frames : List Frame} {tail : List UInt8}
    (heard : stream reads = frames.flatMap Frame.bytes ++ tail) {ending : Ending} {last : Nat}
    (ready : ((Session.start (credentialsFor ls around r)).left around.primitives
      (credentialsFor ls around r) frames tail ending).exchange.stage = .ready) :
    ∃ opened, (connect ls around r
      (.ends before (.ok (opening ++ conversation reads ending last)))).course.outcome? =
        some (.ok opened) := by
  obtain ⟨conn, comes⟩ := connect_conversation begins
  rw [(comes heard ending last).1, Connection.outcome?_proceed_ready conn _ ready]
  exact ⟨_, rfl⟩

end

end Login
end Passage
