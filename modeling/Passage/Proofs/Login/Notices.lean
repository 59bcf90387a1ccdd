import Passage.Proofs.Login.Objections

namespace Passage.Login

open Wire (Frame Notice Reply)

/-- A message of a server: one of its own, or a notice put in besides. -/
inductive Said where
  | own (f : Frame)
  | aside (f : Frame) (n : Notice) (reads : f.reading = .ok (.notice n))

namespace Said

def plain : List Said → List Frame
  | [] => []
  | own f :: rest => f :: plain rest
  | aside _ _ _ :: rest => plain rest

def all : List Said → List Frame
  | [] => []
  | own f :: rest => f :: all rest
  | aside f _ _ :: rest => f :: all rest

end Said

/-- Each notice put in comes where the client may be asked for anything, or after the end, or in front of an own
message that is met with the same objection. -/
def Unheard (p : Scram.Primitives) (c : Credentials) : Session → List Said → Prop
  | _, [] => True
  | s, .own f :: rest => Unheard p c (s.read p c f) rest
  | s, .aside _ n _ :: rest =>
    match s.exchange.objection? with
    | none => Unheard p c s rest
    | some _ => ∃ f frames m, Said.plain rest = f :: frames ∧ f.reading = .ok (.notice m) ∧
        m.debug = n.debug

section

variable {p : Scram.Primitives} {c : Credentials} {s : Session}

theorem unheard_aside (open_ : s.exchange.objection? = none) {f : Frame} {n : Notice}
    {reads : f.reading = .ok (.notice n)} {rest : List Said} (unheard : Unheard p c s rest) :
    Unheard p c s (.aside f n reads :: rest) := by
  unfold Unheard
  rwa [open_]

theorem unheard_own (frames : List Frame) (rest : List Said) :
    Unheard p c s (frames.map .own ++ rest) ↔ Unheard p c (s.reads p c frames) rest := by
  induction frames generalizing s with
  | nil => rfl
  | cons f frames ih => exact ih

end

namespace Session

variable {p : Scram.Primitives} {c : Credentials} {s : Session}

/-- Notices that are unheard leave the session where it would be without them. -/
theorem reads_unheard {said : List Said} (unheard : Unheard p c s said) :
    s.reads p c (Said.all said) = s.reads p c (Said.plain said) := by
  induction said generalizing s with
  | nil => rfl
  | cons line rest ih =>
    cases line with
    | own f => exact ih unheard
    | aside f n reads =>
      change (s.read p c f).reads p c (Said.all rest) = s.reads p c (Said.plain rest)
      cases objects : s.exchange.objection? with
      | none =>
        unfold Unheard at unheard
        rw [objects] at unheard
        rw [read_notice_passed objects reads]
        exact ih unheard
      | some lead =>
        -- the next message of the server's own ends the session in the same way
        unfold Unheard at unheard
        rw [objects] at unheard
        obtain ⟨g, frames, m, next, reads', alike⟩ := unheard
        have same : s.object lead (.notice m) = s.object lead (.notice n) := by
          rw [object, object, debug_eq_notice_iff.mpr ⟨m, rfl, alike⟩]
        rw [next]
        change _ = (s.read p c g).reads p c frames
        rw [read_notice_objected objects reads, read_notice_objected objects reads', same,
          reads_over (isOver_object _ _ _), reads_over (isOver_object _ _ _)]

/-- Of the messages that may come while the client awaits the server's part, only a notice can end the session
as a notice would. -/
theorem interrupted {lead : String} (objects : s.exchange.objection? = some lead) {tail : List UInt8}
    (cut : ∀ outcome rest, Wire.intake tail ≠ .taken outcome rest) {ending : Ending} {frames : List Frame}
    {n : Notice}
    (failed : (s.left p c frames tail ending).exchange.stage =
      .failed (.protocol (lead ++ (Reply.notice n).debug)))
    (silent : (s.left p c frames tail ending).sent.length = s.sent.length) :
    ∃ f rest m, frames = f :: rest ∧ f.reading = .ok (.notice m) ∧ m.debug = n.debug := by
  have objection := isObjection_of_lead objects (Reply.notice n).debug
  obtain ⟨said, stages⟩ := left_unmoved p c s frames cut ending
  have stage := (stages _ failed).resolve_right (not_not_intro objection)
  rw [said] at silent
  cases frames with
  | nil => exact absurd (isOver_of_failed stage) (unfinished_of_objection objects)
  | cons f rest =>
    change ((s.read p c f).reads p c rest).exchange.stage = _ at stage
    rcases read_awaiting p c objects f with calm | ⟨reply, reading, objected⟩
    · exact absurd objection (((calm.reads rest).unobjecting silent).2 _ stage)
    · rw [objected, reads_over (isOver_object _ _ _)] at stage
      obtain shown := Fault.protocol.inj (Stage.failed.inj stage)
      obtain ⟨m, rfl, alike⟩ := debug_eq_notice_iff.mp ((String.append_right_inj _).mp shown)
      exact ⟨f, rest, m, rfl, reading, alike⟩

/-- A notice that interrupts an exchange shows, unless the server's own next message would have interrupted it
in the same words. -/
theorem unheard_of_left {tail : List UInt8} (cut : ∀ outcome rest, Wire.intake tail ≠ .taken outcome rest)
    (ending : Ending) {said : List Said}
    (ends : ∀ fault, (s.left p c (Said.all said) tail ending).exchange.stage = .failed fault →
      (s.left p c (Said.plain said) tail ending).exchange.stage = .failed fault)
    (bytes : (s.left p c (Said.all said) tail ending).sentBytes =
      (s.left p c (Said.plain said) tail ending).sentBytes) : Unheard p c s said := by
  induction said generalizing s with
  | nil => trivial
  | cons line rest ih =>
    cases line with
    | own f => exact ih ends bytes
    | aside f n reads =>
      unfold Unheard
      cases objects : s.exchange.objection? with
      | none =>
        have passed : s.left p c (Said.all (.aside f n reads :: rest)) tail ending =
            s.left p c (Said.all rest) tail ending := by
          change (s.read p c f).left p c (Said.all rest) tail ending = _
          rw [read_notice_passed objects reads]
        rw [passed] at ends bytes
        exact ih ends bytes
      | some lead =>
        have objected : s.left p c (Said.all (.aside f n reads :: rest)) tail ending =
            (s.object lead (.notice n)).holding tail := by
          change (s.read p c f).left p c (Said.all rest) tail ending = _
          rw [read_notice_objected objects reads, left_over, reads_over (isOver_object _ _ _)]
          rw [reads_over (isOver_object _ _ _)]
          rfl
        rw [objected] at ends bytes
        have failed := ends _ rfl
        have silent := (left_extends p c s (Said.plain rest) tail ending).length_eq
          ((sentBytes_object s lead _).symm.trans bytes)
        exact interrupted objects cut failed silent

end Session

/-- Notices put into a conversation, in front of any of its messages, change neither what the login comes to nor
what it sends, exactly if none of them comes while the client awaits the server's part of a SASL exchange. (One
that does ends the login, in which the server's own next message can be a notice too and end it likewise.) This
holds however the bytes are cut into reads and however the conversation ends, and of any stream, for each is some
whole messages and what is behind them. -/
theorem notices_unheard_iff (ls : Settings) (around : Surroundings) (r : DriverRequest) (before : Nat)
    (opening : List (Nat × Event))
    (begins : (connect ls around r (.ends before (.ok opening))).connection.map (·.step) =
      some (.talking (Session.start (credentialsFor ls around r))))
    (said : List Said) (tail : List UInt8)
    (cut : ∀ outcome rest, Wire.intake tail ≠ .taken outcome rest) (ending : Ending)
    (reads reads' : List (Nat × List UInt8)) (last last' : Nat)
    (heard : stream reads = (Said.all said).flatMap Frame.bytes ++ tail)
    (heard' : stream reads' = (Said.plain said).flatMap Frame.bytes ++ tail) :
    let a := connect ls around r (.ends before (.ok (opening ++ conversation reads ending last)))
    let b := connect ls around r (.ends before (.ok (opening ++ conversation reads' ending last')))
    (a.course.outcome? = b.course.outcome? ∧
          a.connection.map (·.sentBytes) = b.connection.map (·.sentBytes) ↔
        Unheard around.primitives (credentialsFor ls around r)
          (Session.start (credentialsFor ls around r)) said) ∧
      ∀ data : List UInt8, ∃ (frames : List Frame) (behind : List UInt8),
        data = frames.flatMap Frame.bytes ++ behind ∧
          ∀ outcome rest, Wire.intake behind ≠ .taken outcome rest := by
  intro a b
  refine ⟨?_, Wire.exists_frames⟩
  let c := credentialsFor ls around r
  let s := Session.start c
  obtain ⟨conn, comes⟩ := connect_conversation begins
  obtain ⟨outcome, sent⟩ := comes heard ending last
  obtain ⟨outcome', sent'⟩ := comes heard' ending last'
  rw [show a.course.outcome? = _ from outcome, show b.course.outcome? = _ from outcome',
    show a.connection.map (·.sentBytes) = _ from sent, show b.connection.map (·.sentBytes) = _ from sent']
  constructor
  · rintro ⟨ends, bytes⟩
    refine Session.unheard_of_left cut ending (fun fault failed => ?_) ?_
    · rw [(Connection.outcome?_proceed_failed_iff conn s _).mpr failed] at ends
      obtain ⟨result, ended, same⟩ := Option.map_eq_some_iff.mp ends.symm
      cases result with
      | ok => cases same
      | error fault' =>
        cases same
        exact (Connection.outcome?_proceed_failed_iff conn s _).mp ended
    · obtain ⟨more, own, written⟩ := conn.proceed_sentBytes
        (Session.left_extends around.primitives c s (Said.all said) tail ending)
      obtain ⟨more', own', written'⟩ := conn.proceed_sentBytes
        (Session.left_extends around.primitives c s (Said.plain said) tail ending)
      rw [written, written', Option.some.injEq, List.append_right_inj] at bytes
      rw [own, own', bytes]
  · intro unheard
    have same : s.left around.primitives c (Said.all said) tail ending =
        s.left around.primitives c (Said.plain said) tail ending := by
      unfold Session.left
      rw [Session.reads_unheard unheard]
    rw [same]
    exact ⟨rfl, rfl⟩

/-- A login in clear in which every hash, signature and key is the same 32 bytes. -/
def constantSurroundings : Surroundings where
  primitives := ⟨fun _ => ⟨List.replicate 32 0, rfl⟩, fun _ _ => ⟨List.replicate 32 0, rfl⟩,
    fun _ _ _ => ⟨List.replicate 32 0, rfl⟩⟩
  files _ := .error .missingFile
  parsable _ := true
  systemUser := "app"
  nonce := "fyko"

def clearRequest : DriverRequest where
  dialect := .postgres
  host := "db.internal"
  port := 5432
  serverName := "db.internal"
  database := none
  user := none
  password := some "secret"
  sslMode := .disabled
  tls := .disabled
  timeout := none

def offered : Short := ⟨.sasl [⟨⟨"SCRAM-SHA-256", by decide⟩, by decide⟩], by decide⟩

def answers : List Short :=
  [⟨.saslContinue (Text.bytes "r=fykorOpr,s=W22Z,i=1"), by decide⟩,
    ⟨.saslFinal (Text.bytes "v=AAAAAAAAAAAAAAAAAAAAAAAAAAAAAAAAAAAAAAAAAAA="), by decide⟩]

def welcome : List Short := [⟨.accepted, by decide⟩, ⟨.ready 73, by decide⟩]

def greeting : Short :=
  ⟨.notice ⟨[⟨77, ⟨"hello", by decide⟩, by decide⟩], by decide +kernel⟩, by decide⟩

def greeted : Notice where
  message := some "hello"

theorem reading_greeting : greeting.frame.reading = .ok (.notice greeted) :=
  Wire.read_meaning greeting.val

def remark : Said := .aside greeting.frame greeted reading_greeting

/-- Notices in front of the exchange and behind it. -/
theorem notices_unheard_verified :
    let c := credentialsFor {} constantSurroundings clearRequest
    let said := remark ::
      (((offered :: answers).map Short.frame).map .own ++ remark :: (welcome.map Short.frame).map .own)
    let attempt (frames : List Frame) := connect {} constantSurroundings clearRequest
      (.ends 3 (.ok (conversation [(5, frames.flatMap Frame.bytes)] .closes 2)))
    (connect {} constantSurroundings clearRequest (.ends 3 (.ok []))).connection.map (·.step) =
        some (.talking (Session.start c)) ∧
      (∀ outcome rest, Wire.intake [] ≠ .taken outcome rest) ∧
      Unheard constantSurroundings.primitives c (Session.start c) said ∧
      (attempt (Said.all said)).course.outcome? = (attempt (Said.plain said)).course.outcome? ∧
      (attempt (Said.all said)).connection.map (·.sentBytes) =
        (attempt (Said.plain said)).connection.map (·.sentBytes) := by
  intro c said attempt
  have passed : ((Session.start c).reads constantSurroundings.primitives c
      ((offered :: answers).map Short.frame)).exchange.objection? = none := by
    rw [Session.reads_hears _ _ _ _ _ (Short.reading _)]
    decide +kernel
  have unheard : Unheard constantSurroundings.primitives c (Session.start c) said := by
    refine unheard_aside rfl ((unheard_own _ _).mpr (unheard_aside passed ?_))
    trivial
  have begins : (connect {} constantSurroundings clearRequest (.ends 3 (.ok []))).connection.map
      (·.step) = some (.talking (Session.start c)) := rfl
  have cut : ∀ outcome rest, Wire.intake [] ≠ .taken outcome rest := nofun
  obtain ⟨outcome, sent⟩ := (notices_unheard_iff {} constantSurroundings clearRequest 3 [] begins said []
    cut .closes [(5, (Said.all said).flatMap Frame.bytes)] [(5, (Said.plain said).flatMap Frame.bytes)]
    2 2 (by simp [stream]) (by simp [stream])).1.mpr unheard
  exact ⟨begins, cut, unheard, outcome, sent⟩

/-- The same login with the notice right behind the offer. -/
theorem notice_interrupts_verified :
    let said := .own offered.frame :: remark ::
      ((answers.map Short.frame).map .own ++ (welcome.map Short.frame).map .own)
    let attempt (frames : List Frame) := connect {} constantSurroundings clearRequest
      (.ends 3 (.ok (conversation [(5, frames.flatMap Frame.bytes)] .closes 2)))
    (∃ opened, (attempt (Said.plain said)).course.outcome? = some (.ok opened)) ∧
      (attempt (Said.all said)).course.outcome? = some (.error (.protocol
        ("expected SASL continue, got Notice(ServerNotice \x7b severity: None, code: None, " ++
          "message: Some(\"hello\"), detail: None \x7d)"))) := by
  intro said attempt
  let c := credentialsFor {} constantSurroundings clearRequest
  let p := constantSurroundings.primitives
  have begins : (connect {} constantSurroundings clearRequest (.ends 3 (.ok []))).connection.map
      (·.step) = some (.talking (Session.start c)) := rfl
  have heard (frames : List Frame) :
      stream [(5, frames.flatMap Frame.bytes)] = frames.flatMap Frame.bytes ++ [] := by
    simp [stream]
  have plain : Said.plain said = (offered :: answers ++ welcome).map Short.frame := rfl
  have ready : ((Session.start c).reads p c (Said.plain said)).exchange.stage = .ready := by
    rw [plain, Session.reads_hears _ _ _ _ _ (Short.reading _)]
    apply Exchange.stage_of_isReady
    decide +kernel
  have objects : ((Session.start c).read p c offered.frame).exchange.objection? =
      some "expected SASL continue, got " := by
    change ((Session.start c).reads p c ([offered].map Short.frame)).exchange.objection? = _
    rw [Session.reads_hears _ _ _ _ _ (Short.reading _)]
    decide +kernel
  have objected : (Session.start c).reads p c (Said.all said) =
      ((Session.start c).read p c offered.frame).object "expected SASL continue, got "
        (.notice greeted) := by
    change (((Session.start c).read p c offered.frame).read p c greeting.frame).reads p c _ = _
    rw [Session.read_notice_objected objects reading_greeting,
      Session.reads_over (Session.isOver_object _ _ _)]
  have ended : ((Session.start c).reads p c (Said.all said)).isOver = true := by
    rw [objected]
    rfl
  have shown : "expected SASL continue, got " ++ (Reply.notice greeted).debug =
      "expected SASL continue, got Notice(ServerNotice \x7b severity: None, code: None, " ++
        "message: Some(\"hello\"), detail: None \x7d)" := by
    decide +kernel
  refine ⟨conversation_ready begins (heard _) ?_, conversation_failed begins (heard _) ?_⟩
  · rw [Session.left_over (Session.isOver_of_ready ready)]
    exact ready
  · rw [Session.left_over ended, objected]
    exact congrArg (fun text => Stage.failed (.protocol text)) shown

end Passage.Login
