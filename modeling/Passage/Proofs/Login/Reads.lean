import Passage.Proofs.Login.Stalling
import Passage.Proofs.Wire.Segmentation

namespace Passage.Login

namespace Session

variable {p : Scram.Primitives} {c : Credentials} {s : Session}

def push (s : Session) (more : List UInt8) : Session :=
  { s with buffer := s.buffer ++ more }

theorem push_nil (s : Session) : s.push [] = s := by
  rw [push, List.append_nil]

theorem push_push (s : Session) (data more : List UInt8) :
    (s.push data).push more = s.push (data ++ more) := by
  rw [push, push, push, List.append_assoc]

theorem isOver_fail (s : Session) (fault : Fault) : (s.fail fault).isOver = true := by
  unfold fail
  split
  · assumption
  · rfl

theorem push_fail (fault : Fault) (more : List UInt8) :
    (s.fail fault).push more = (s.push more).fail fault := by
  unfold fail
  have same : (s.push more).isOver = s.isOver := rfl
  rw [same]
  split <;> rfl

/-- Messages are taken from a stream as they would be taken from its beginning first. -/
theorem settle_push (more : List UInt8) :
    ((s.settle p c).push more).settle p c = (s.push more).settle p c := by
  induction s using settle.induct p c with
  | case1 s finished => rw [settle_over finished]
  | case2 s unfinished starved => rw [settle_starved unfinished starved]
  | case3 s unfinished fault misframed =>
    have still : ¬ (s.push more).isOver = true := unfinished
    have further : Wire.intake (s.push more).buffer = .misframed fault :=
      Wire.misframed_append misframed more
    rw [settle_misframed unfinished misframed, settle_misframed still further,
      push_fail, settle_over (isOver_fail _ _)]
  | case4 s unfinished fault rest taken =>
    have still : ¬ (s.push more).isOver = true := unfinished
    have further : Wire.intake (s.push more).buffer = .taken (.error fault) (rest ++ more) :=
      Wire.taken_append taken more
    rw [settle_unreadable unfinished taken, settle_unreadable still further,
      push_fail, settle_over (isOver_fail _ _)]
    rfl
  | case5 s unfinished reply rest taken ih =>
    have still : ¬ (s.push more).isOver = true := unfinished
    have further : Wire.intake (s.push more).buffer = .taken (.ok reply) (rest ++ more) :=
      Wire.taken_append taken more
    rw [settle_reply unfinished taken, settle_reply still further, ih]
    rfl

theorem settle_settle (s : Session) : (s.settle p c).settle p c = s.settle p c := by
  have again := settle_push (p := p) (c := c) (s := s) []
  rwa [push_nil, push_nil] at again

/-- The sessions are the same but for what they have not read. -/
def SameButUnread (s t : Session) : Prop := ∃ left, s = { t with buffer := left }

theorem SameButUnread.fail {s t : Session} (h : s.SameButUnread t) (fault : Fault) :
    (s.fail fault).SameButUnread (t.fail fault) := by
  obtain ⟨left, rfl⟩ := h
  refine ⟨left, ?_⟩
  have same : ({ t with buffer := left } : Session).isOver = t.isOver := rfl
  rw [Session.fail, Session.fail, same]
  split <;> rfl

/-- A session that is over reads no more, and one that is not takes what there is. -/
theorem feed_cases (p : Scram.Primitives) (c : Credentials) (s : Session) (data : List UInt8) :
    (s.isOver = true ∧ s.feed p c data = s) ∨
      s.feed p c data = (s.push data).settle p c := by
  unfold feed
  split
  · rename_i finished
    exact .inl ⟨finished, rfl⟩
  · exact .inr rfl

/-- Reads that come one after another leave a session where one read of all their bytes would. -/
theorem attend_reads (settled : s.settle p c = s) (reads : List (List UInt8)) :
    (s.attend p c (reads.map .bytes)).SameButUnread ((s.push reads.flatten).settle p c) := by
  induction reads generalizing s with
  | nil =>
    rw [List.flatten_nil, push_nil, settled]
    exact ⟨s.buffer, rfl⟩
  | cons data reads ih =>
    change ((s.feed p c data).attend p c (reads.map .bytes)).SameButUnread _
    rw [List.flatten_cons]
    rcases feed_cases p c s data with ⟨finished, fed⟩ | fed
    · -- what comes after the end stays unread
      obtain ⟨left, heard⟩ := ih settled
      rw [settle_over (show (s.push _).isOver = true from finished)] at heard
      rw [fed, settle_over (show (s.push _).isOver = true from finished)]
      exact ⟨left, heard⟩
    · have heard := ih (settle_settle (s.push data))
      rwa [settle_push, push_push, ← fed] at heard

end Session

/-- The server sends its bytes in these reads, each so long after the one before, and then closes. -/
def closing (reads : List (Nat × List UInt8)) (last : Nat) : List (Nat × Event) :=
  reads.map (fun (delay, data) => (delay, .bytes data)) ++ [(last, .ended)]

def stream (reads : List (Nat × List UInt8)) : List UInt8 := (reads.map Prod.snd).flatten

/-- What is left of a session when the whole stream was heard at once. -/
def Session.whole (p : Scram.Primitives) (c : Credentials) (data : List UInt8) : Session :=
  (((start c).push data).settle p c).fail .connectionClosed

theorem Session.attend_closing (p : Scram.Primitives) (c : Credentials)
    (reads : List (Nat × List UInt8)) (last : Nat) :
    ((start c).attend p c ((closing reads last).map Prod.snd)).SameButUnread
      (whole p c (stream reads)) := by
  have events : (closing reads last).map Prod.snd =
      (reads.map Prod.snd).map .bytes ++ [.ended] := by
    simp [closing]
  have settled : (start c).settle p c = start c := settle_starved nofun rfl
  rw [events, attend, List.foldl_append]
  exact (attend_reads settled (reads.map Prod.snd)).fail .connectionClosed

namespace Connection

/-- Running by the clock leaves a connection where running on the events does: what comes after the end
changes nothing. -/
theorem course_eq_run (p : Scram.Primitives) (c : Connection) (timed : List (Nat × Event)) :
    let last := c.run p (timed.map Prod.snd)
    (c.course p timed).2 = last ∧
      (c.course p timed).1.outcome? = last.outcome?.map fun result => result.map fun _ => last := by
  induction timed generalizing c with
  | nil =>
    unfold course
    change _ = c ∧ _ = c.outcome?.map _
    cases c.outcome? <;> exact ⟨rfl, rfl⟩
  | cons first timed ih =>
    obtain ⟨delay, event⟩ := first
    unfold course
    cases ended : c.outcome? with
    | none =>
      obtain ⟨left, comes⟩ := ih (c.receive p event)
      exact ⟨left, (Course.outcome?_later _ _).trans comes⟩
    | some result =>
      intro last
      rw [show last = c from run_over ended _, ended]
      exact ⟨rfl, rfl⟩

/-- A connection in the clear on which a login has come to this session. -/
def clear (c : Credentials) (serverName : String) (s : Session) : Connection where
  credentials := c
  serverName
  step := .talking s
  written := s.sent.map fun packet => ⟨false, packet⟩

theorem start_run_clear (p : Scram.Primitives) (c : Credentials) (serverName : String)
    (events : List Event) :
    (start c serverName none).run p events =
      clear c serverName ((Session.start c).attend p c events) := by
  rw [start, login_run]
  rfl

/-- What can be told of a connection in the clear without a look at what it has not read. -/
theorem clear_eq {s t : Session} (h : s.SameButUnread t) (c : Credentials) (serverName : String)
    (mode : SslMode) :
    let a := clear c serverName s
    let b := clear c serverName t
    a.outcome? = b.outcome? ∧ Opened.of mode a = Opened.of mode b ∧ a.written = b.written ∧
      a.metrics = b.metrics := by
  obtain ⟨left, rfl⟩ := h
  exact ⟨rfl, rfl, rfl, rfl⟩

theorem clear_ended {s : Session} (finished : s.isOver = true) (c : Credentials)
    (serverName : String) : ∃ result, (clear c serverName s).outcome? = some result := by
  cases ended : (clear c serverName s).outcome? with
  | none =>
    have unfinished := (outcome?_eq_none_iff rfl).mp ended
    cases finished.symm.trans unfinished
  | some result => exact ⟨result, rfl⟩

end Connection

theorem Attempted.sentBytes_eq (a : Attempted) :
    a.connection.map (·.sentBytes) =
      (a.connection.map (·.written)).map fun written => written.flatMap (·.packet.encode) := by
  rw [Option.map_map]
  rfl

section

variable {ls : Settings} {around : Surroundings} {r : DriverRequest}

theorem prepare_clear {tls : Option Tls.Settings} (ready : prepare ls around r = .ok tls)
    (clear : r.tls.usesTls = false) : tls = none := by
  unfold prepare at ready
  split at ready
  · cases ready
  · have wanted := Tls.settingsFor_isSome ready
    rw [clear] at wanted
    exact Option.isNone_iff_eq_none.mp (by simpa using wanted)

theorem connect_failed {defect : Misconfiguration} (failed : prepare ls around r = .error defect)
    (peer : Peer) :
    connect ls around r peer = { course := .ends 0 (.error (.configuration defect)) } := by
  rw [connect, failed]

theorem connect_late {tls : Option Tls.Settings} (ready : prepare ls around r = .ok tls) {peer : Peer}
    {after : Nat} {fault : IoFault} (late : dialled r peer = .ends after (.error fault)) :
    connect ls around r peer = { course := .ends after (.error (.io fault)) } := by
  rw [connect, ready]
  dsimp only
  rw [late]

/-- Whether a peer is dialled in time has nothing to do with what it sends. -/
theorem dialled_cases (r : DriverRequest) (before : Nat) :
    (∀ timed, dialled r (.ends before (.ok timed)) = .ends before (.ok timed)) ∨
      ∃ after fault, ∀ timed, dialled r (.ends before (.ok timed)) = .ends after (.error fault) := by
  unfold dialled
  cases r.timeout with
  | none => exact .inl fun _ => rfl
  | some limit =>
    by_cases reached : before ≤ limit
    · exact .inl fun _ => if_pos (decide_eq_true reached)
    · exact .inr ⟨limit, _, fun _ => if_neg (by simpa [Course.endsBy] using reached)⟩

section

variable {before : Nat}
  (reached : ∀ timed, dialled r (.ends before (.ok timed)) = .ends before (.ok timed))
include reached

/-- An attempt that has dialled its peer runs a connection on all that the peer has to say. -/
theorem connect_run {tls : Option Tls.Settings} (ready : prepare ls around r = .ok tls)
    (timed : List (Nat × Event)) :
    let last := (Connection.start (credentialsFor ls around r) r.serverName tls).run
      around.primitives (timed.map Prod.snd)
    let a := connect ls around r (.ends before (.ok timed))
    a.connection = some last ∧
      a.course.outcome? =
        last.outcome?.map fun result => result.map fun _ => Opened.of r.sslMode last := by
  let fresh := Connection.start (credentialsFor ls around r) r.serverName tls
  have attempted : connect ls around r (.ends before (.ok timed)) = {
      course := ((fresh.course around.primitives timed).1.map fun result =>
        result.map (Opened.of r.sslMode)).later before
      connection := some (fresh.course around.primitives timed).2 } := by
    rw [connect, ready, reached]
  obtain ⟨last, comes⟩ := Connection.course_eq_run around.primitives fresh timed
  rw [attempted]
  refine ⟨congrArg some last, ?_⟩
  rw [Course.outcome?_later, Course.outcome?_map, comes, Option.map_map]
  refine congrArg (Option.map · _) (funext fun result => ?_)
  cases result <;> rfl

/-- What an attempt in the clear comes to is what the whole of the server's bytes come to. -/
theorem connect_closing (ready : prepare ls around r = .ok none)
    (reads : List (Nat × List UInt8)) (last : Nat) :
    let c := credentialsFor ls around r
    let whole := Connection.clear c r.serverName (Session.whole around.primitives c (stream reads))
    let a := connect ls around r (.ends before (.ok (closing reads last)))
    a.course.outcome? = whole.outcome?.map (fun result => result.map fun _ =>
        Opened.of r.sslMode whole) ∧
      a.connection.map (·.written) = some whole.written ∧
      a.connection.map (·.metrics) = some whole.metrics := by
  intro c whole a
  obtain ⟨left, comes⟩ := connect_run reached ready (closing reads last)
  rw [Connection.start_run_clear] at left comes
  obtain ⟨outcome, opened, written, metrics⟩ := Connection.clear_eq
    (Session.attend_closing around.primitives c reads last) c r.serverName r.sslMode
  rw [outcome, opened] at comes
  rw [show a.connection = _ from left]
  exact ⟨comes, congrArg some written, congrArg some metrics⟩

end

/-- An attempt that gets a connection runs it on all that its peer has to say, whatever that is. -/
theorem connect_dialled {peer : Peer} {conn : Connection}
    (made : (connect ls around r peer).connection = some conn) :
    ∃ tls before words, prepare ls around r = .ok tls ∧ peer = .ends before (.ok words) ∧
      ∀ timed : List (Nat × Event),
        let last := (Connection.start (credentialsFor ls around r) r.serverName tls).run
          around.primitives (timed.map Prod.snd)
        let a := connect ls around r (.ends before (.ok timed))
        a.connection = some last ∧
          a.course.outcome? =
            last.outcome?.map fun result => result.map fun _ => Opened.of r.sslMode last := by
  cases ready : prepare ls around r with
  | error defect =>
    rw [connect_failed ready] at made
    cases made
  | ok tls =>
    rcases connect_cases ls around r peer with ⟨none, -⟩ | ⟨-, before, words, -, rfl, -⟩
    · cases none.symm.trans made
    rcases dialled_cases r before with reached | ⟨after, fault, late⟩
    · exact ⟨tls, before, words, rfl, rfl, connect_run reached ready⟩
    · rw [connect_late ready (late words)] at made
      cases made

end

/-- However the same bytes of a server are cut into reads, and however long these take, a login in the clear
has the same result, writes the same packets and counts the same; and it always comes to an end. -/
theorem login_uncut (ls : Settings) (around : Surroundings) (r : DriverRequest)
    (plain : r.tls.usesTls = false) (before last last' : Nat) (reads reads' : List (Nat × List UInt8))
    (same : stream reads = stream reads') :
    let a := connect ls around r (.ends before (.ok (closing reads last)))
    let b := connect ls around r (.ends before (.ok (closing reads' last')))
    (∃ result, a.course.outcome? = some result) ∧ a.course.outcome? = b.course.outcome? ∧
      a.connection.map (·.written) = b.connection.map (·.written) ∧
      a.connection.map (·.sentBytes) = b.connection.map (·.sentBytes) ∧
      a.connection.map (·.metrics) = b.connection.map (·.metrics) := by
  intro a b
  cases ready : prepare ls around r with
  | error defect =>
    rw [show a = _ from connect_failed ready _, show b = _ from connect_failed ready _]
    exact ⟨⟨_, rfl⟩, rfl, rfl, rfl, rfl⟩
  | ok tls =>
    obtain rfl := prepare_clear ready plain
    rcases dialled_cases r before with reached | ⟨after, fault, late⟩
    · obtain ⟨comes, written, metrics⟩ := connect_closing reached ready reads last
      obtain ⟨comes', written', metrics'⟩ := connect_closing reached ready reads' last'
      rw [← same] at comes' written' metrics'
      refine ⟨?_, comes.trans comes'.symm, written.trans written'.symm, ?_,
        metrics.trans metrics'.symm⟩
      · obtain ⟨result, ended⟩ := Connection.clear_ended
          (Session.isOver_fail _ .connectionClosed) (credentialsFor ls around r) r.serverName
        rw [comes, Session.whole, ended]
        exact ⟨_, rfl⟩
      · rw [a.sentBytes_eq, b.sentBytes_eq, written, written']
    · rw [show a = _ from connect_late ready (late _), show b = _ from connect_late ready (late _)]
      exact ⟨⟨_, rfl⟩, rfl, rfl, rfl, rfl⟩

/-- A server that is ready before it has asked for anything. -/
theorem Session.whole_ready (p : Scram.Primitives) (c : Credentials) :
    whole p c [90, 0, 0, 0, 5, 73] = { start c with exchange := { stage := .ready } } := by
  let s : Session := (start c).push [90, 0, 0, 0, 5, 73]
  have taken : Wire.intake s.buffer = .taken (.ok (.ready 73)) [] := rfl
  have unfinished : ¬ s.isOver = true := Bool.false_ne_true
  have settled : s.settle p c = { start c with exchange := { stage := .ready } } := by
    rw [settle_reply unfinished taken, settle_over]
    · rfl
    · rfl
  rw [whole, settled]
  rfl

theorem connect_ready {ls : Settings} {around : Surroundings} {r : DriverRequest}
    (ready : prepare ls around r = .ok none) (unlimited : r.timeout = none) (before : Nat)
    {reads : List (Nat × List UInt8)} (bytes : stream reads = [90, 0, 0, 0, 5, 73]) (last : Nat) :
    (connect ls around r (.ends before (.ok (closing reads last)))).course.outcome? =
      some (.ok ⟨false, r.sslMode, none, none, []⟩) := by
  have reached (timed : List (Nat × Event)) :
      dialled r (.ends before (.ok timed)) = .ends before (.ok timed) := by
    rw [dialled, unlimited]
  obtain ⟨comes, -⟩ := connect_closing reached ready reads last
  rw [comes, bytes, Session.whole_ready]
  rfl

/-- The server's one message comes at once, or in two reads between which one waits. -/
theorem login_uncut_ready :
    let r : DriverRequest := {
      dialect := .postgres, host := "db.internal", port := 5432, serverName := "db.internal"
      database := none, user := none, password := none, sslMode := .disabled, tls := .disabled
      timeout := none }
    let a := connect {} plainSurroundings r (.ends 3 (.ok (closing [(0, [90, 0, 0, 0, 5, 73])] 0)))
    let b := connect {} plainSurroundings r
      (.ends 3 (.ok (closing [(5, [90, 0, 0]), (20, [0, 5, 73])] 1)))
    r.tls.usesTls = false ∧ a.course.outcome? = some (.ok ⟨false, .disabled, none, none, []⟩) ∧
      b.course.outcome? = a.course.outcome? := by
  intro r a b
  have uncut := login_uncut {} plainSurroundings r rfl 3 0 1 [(0, [90, 0, 0, 0, 5, 73])]
    [(5, [90, 0, 0]), (20, [0, 5, 73])] rfl
  exact ⟨rfl, connect_ready rfl rfl 3 rfl 0, uncut.2.1.symm⟩

end Passage.Login
