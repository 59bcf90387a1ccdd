import Passage.Proofs.Login.Acceptance
import Passage.Proofs.Login.Messages
import Passage.Proofs.Text.Quoting

namespace Passage.Login

open Wire (Frame Notice Reply)

/-- Only a notice is shown like a notice. -/
theorem debug_eq_notice_iff {reply : Reply} {n : Notice} :
    reply.debug = (Reply.notice n).debug ↔ ∃ m, reply = .notice m ∧ m.debug = n.debug := by
  constructor
  · intro same
    have first := congrArg (fun text => text.toList.head?) same
    cases reply with
    | notice m => exact ⟨m, rfl, Quoted.wrapped_inj.mp same⟩
    | _ => simp [Reply.debug, Quoted.wrapped, Quoted.record, String.toList_append] at first
  · rintro ⟨m, rfl, same⟩
    exact Quoted.wrapped_inj.mpr same

/-- What a message is met with while the client awaits the server's part of a SASL exchange, unless it is
that part or an error. -/
def Exchange.objection? (e : Exchange) : Option String :=
  match e.stage with
  | .proving _ => some "expected SASL continue, got "
  | .verifying _ => some "expected SASL final, got "
  | _ => none

namespace Session

variable {p : Scram.Primitives} {c : Credentials} {s t : Session}

theorem unfinished_of_objection {lead : String} (objects : s.exchange.objection? = some lead) :
    ¬ s.isOver = true := by
  unfold Exchange.objection? at objects
  unfold isOver Exchange.isOver
  cases stage : s.exchange.stage <;> simp_all

theorem read_notice_passed (open_ : s.exchange.objection? = none) {f : Frame} {n : Notice}
    (reads : f.reading = .ok (.notice n)) : s.read p c f = s := by
  by_cases finished : s.isOver = true
  · exact read_over finished f
  rw [read_reply finished reads]
  have passed : s.exchange.receive p c (.notice n) = { next := s.exchange } := by
    unfold Exchange.objection? at open_
    unfold isOver Exchange.isOver at finished
    unfold Exchange.receive
    cases stage : s.exchange.stage <;> simp_all [Exchange.listen]
  rw [passed, take, List.append_nil, List.append_nil]

/-- The client fails over a message that it does not await. -/
def object (s : Session) (lead : String) (reply : Reply) : Session :=
  s.take (s.exchange.fail (.protocol (lead ++ reply.debug)))

theorem isOver_object (s : Session) (lead : String) (reply : Reply) : (s.object lead reply).isOver = true :=
  rfl

theorem sentBytes_object (s : Session) (lead : String) (reply : Reply) :
    (s.object lead reply).sentBytes = s.sentBytes := by
  unfold object take Exchange.fail sentBytes
  rw [List.append_nil]

theorem read_notice_objected {lead : String} (objects : s.exchange.objection? = some lead) {f : Frame}
    {n : Notice} (reads : f.reading = .ok (.notice n)) : s.read p c f = s.object lead (.notice n) := by
  rw [read_reply (unfinished_of_objection objects) reads, object]
  congr 1
  unfold Exchange.objection? at objects
  unfold Exchange.receive
  cases stage : s.exchange.stage <;> simp_all [Exchange.prove, Exchange.verify]

end Session

/-- A protocol failure whose text begins like an objection. -/
def IsObjection (fault : Fault) : Prop :=
  ∃ text, fault = .protocol text ∧ text.toList.head? = some 'e'

theorem not_isObjection (front : String) {first : Char} (h : front.toList.head? = some first)
    (other : first ≠ 'e') (rest : String) : ¬ IsObjection (.protocol (front ++ rest)) := by
  rintro ⟨text, same, begins⟩
  obtain rfl := Fault.protocol.inj same
  rw [Text.head?_append h rest] at begins
  exact other (Option.some.inj begins)

theorem not_isObjection_of_ne {fault : Fault} (other : ∀ text, fault ≠ .protocol text) :
    ¬ IsObjection fault := by
  rintro ⟨text, same, -⟩
  exact other text same

theorem not_isObjection_serverFault (n : Notice) : ¬ IsObjection (serverFault n) := by
  unfold serverFault
  split <;> exact not_isObjection_of_ne nofun

theorem not_isObjection_unreadable (fault : Wire.ReplyFault) : ¬ IsObjection (.protocol fault.text) := by
  cases fault with
  | badLength length tag =>
    change ¬ IsObjection (.protocol
      ("bad length " ++ toString length ++ " for message " ++ Wire.ReplyFault.tagText tag))
    rw [String.append_assoc, String.append_assoc]
    exact not_isObjection "bad length " rfl (by decide : 'b' ≠ 'e') _
  | truncated what => exact not_isObjection "truncated " rfl (by decide : 't' ≠ 'e') _
  | unterminated what => exact not_isObjection "unterminated " rfl (by decide : 'u' ≠ 'e') _
  | unsupportedAuth code =>
    exact not_isObjection "unsupported auth request " rfl (by decide : 'u' ≠ 'e') _
  | unexpected tag =>
    change ¬ IsObjection (.protocol
      ("unexpected message " ++ Wire.ReplyFault.tagText tag ++ " during startup"))
    rw [String.append_assoc]
    exact not_isObjection "unexpected message " rfl (by decide : 'u' ≠ 'e') _

theorem not_isObjection_unsaid {fault : Fault} (unsaid : Session.Unsaid fault) : ¬ IsObjection fault := by
  cases unsaid with
  | misframed fault => exact not_isObjection_unreadable fault
  | closed => exact not_isObjection_of_ne nofun
  | broken fault => exact not_isObjection_of_ne nofun

theorem isObjection_of_lead {e : Exchange} {lead : String} (objects : e.objection? = some lead)
    (shown : String) : IsObjection (.protocol (lead ++ shown)) := by
  refine ⟨_, rfl, Text.head?_append ?_ shown⟩
  unfold Exchange.objection? at objects
  split at objects
  · obtain rfl := Option.some.inj objects
    rfl
  · obtain rfl := Option.some.inj objects
    rfl
  · cases objects

/-- Nothing is awaited, and if the exchange has failed it was not over an objection. -/
def Exchange.Unobjecting (e : Exchange) : Prop :=
  e.objection? = none ∧ ∀ fault, e.stage = .failed fault → ¬ IsObjection fault

namespace Exchange

variable {c : Credentials} {e : Exchange} {mechanism : Option Report.Mechanism}

theorem unobjecting_of_failed {fault : Fault} (failed : e.stage = .failed fault)
    (other : ¬ IsObjection fault) : e.Unobjecting := by
  refine ⟨?_, ?_⟩
  · unfold objection?
    rw [failed]
  · intro fault' failed'
    obtain rfl := Stage.failed.inj (failed.symm.trans failed')
    exact other

theorem unobjecting_of_ready (ready : e.stage = .ready) : e.Unobjecting := by
  unfold Unobjecting objection?
  rw [ready]
  exact ⟨rfl, nofun⟩

theorem unobjecting_of_listens (listens : e.listens = true) : e.Unobjecting := by
  unfold Exchange.listens at listens
  unfold Unobjecting objection?
  split at listens
  · rename_i stage
    rw [stage]
    exact ⟨rfl, nofun⟩
  · cases listens

theorem listen_failed
    (listens : e.stage = .listening mechanism) {reply : Reply} {fault : Fault}
    (failed : (e.listen c mechanism reply).next.stage = .failed fault) : ¬ IsObjection fault := by
  rintro ⟨text, rfl, first⟩
  have other : ¬ "SASL message outside of a SASL exchange".toList.head? = some 'e' := by decide
  have stays {e' : Exchange} (same : e'.stage = e.stage) : ¬ e'.stage = .failed (.protocol text) := by
    rw [same, listens]
    exact nofun
  cases reply with
  | auth request =>
    cases request with
    | ok => exact stays rfl failed
    | cleartext =>
      unfold Exchange.listen Exchange.answerCleartext at failed
      dsimp only at failed
      split at failed <;> cases failed
    | md5 => cases failed
    | sasl mechanisms =>
      unfold Exchange.listen Exchange.answerOffer at failed
      dsimp only at failed
      split at failed
      · cases failed
      · split at failed <;> cases failed
    | saslContinue data =>
      cases failed
      exact other first
    | saslFinal data =>
      cases failed
      exact other first
  | keyData processId secretKey => exact stays rfl failed
  | parameter name value => exact stays rfl failed
  | notice n => exact stays rfl failed
  | error n => exact not_isObjection_serverFault n ⟨text, Stage.failed.inj failed, first⟩
  | ready status => cases failed

/-- While the server may ask for anything, a message is answered or met without an objection. -/
theorem listen_unobjecting (listens : e.stage = .listening mechanism) (reply : Reply) :
    (e.listen c mechanism reply).packets ≠ [] ∨ (e.listen c mechanism reply).next.Unobjecting := by
  cases listen_heard c listens reply with
  | failed fault fails => exact .inr (unobjecting_of_failed fails (listen_failed listens fails))
  | ready status told ends silent => exact .inr (unobjecting_of_ready ends)
  | accepted told stays silent => exact .inr (unobjecting_of_listens stays)
  | noted unready plain stays silent => exact .inr (unobjecting_of_listens stays)
  | asked request asks more goes answers =>
    refine .inl (answers ?_)
    unfold Exchange.listens
    rw [listens]

/-- What becomes of a message while the client awaits the server's part: it is answered, or met without an
objection, or met with one. -/
inductive Awaiting (e : Exchange) (lead : String) (reply : Reply) (r : Reaction) : Prop where
  | answered (packets : r.packets ≠ [])
  | calm (next : r.next.Unobjecting)
  | objected (fails : r = e.fail (.protocol (lead ++ reply.debug)))

theorem prove_awaiting (p : Scram.Primitives) (e : Exchange) (client : Scram.Client) (reply : Reply) :
    Awaiting e "expected SASL continue, got " reply (e.prove p client reply) := by
  unfold prove
  split
  · split
    · exact .calm (unobjecting_of_failed rfl (not_isObjection_of_ne nofun))
    · split
      · exact .calm (unobjecting_of_failed rfl (not_isObjection_of_ne nofun))
      · exact .answered (List.cons_ne_nil _ _)
  · exact .calm (unobjecting_of_failed rfl (not_isObjection_serverFault _))
  · exact .objected rfl

theorem verify_awaiting (p : Scram.Primitives) (e : Exchange) (verifier : Scram.Verifier) (reply : Reply) :
    Awaiting e "expected SASL final, got " reply (e.verify p verifier reply) := by
  unfold verify
  split
  · split
    · exact .calm (unobjecting_of_failed rfl (not_isObjection_of_ne nofun))
    · split
      · exact .calm (unobjecting_of_failed rfl (not_isObjection_of_ne nofun))
      · exact .calm (unobjecting_of_listens rfl)
  · exact .calm (unobjecting_of_failed rfl (not_isObjection_serverFault _))
  · exact .objected rfl

theorem receive_awaiting (p : Scram.Primitives) (c : Credentials) {lead : String}
    (objects : e.objection? = some lead) (reply : Reply) :
    Awaiting e lead reply (e.receive p c reply) := by
  unfold objection? at objects
  unfold receive
  cases stage : e.stage with
  | proving client =>
    rw [stage] at objects
    obtain rfl := Option.some.inj objects
    exact prove_awaiting p e client reply
  | verifying verifier =>
    rw [stage] at objects
    obtain rfl := Option.some.inj objects
    exact verify_awaiting p e verifier reply
  | _ => simp [stage] at objects

end Exchange

namespace Session

variable {p : Scram.Primitives} {c : Credentials} {s t : Session}

/-- From `s` to `t` the client has said more, or it has met nothing with an objection and awaits nothing. -/
structure Unobjecting (s t : Session) : Prop where
  grown : s.sent.length ≤ t.sent.length
  unobjecting : t.sent.length = s.sent.length → t.exchange.Unobjecting

theorem take_unobjecting (grown : s.sent.length ≤ t.sent.length) {r : Reaction}
    (h : r.packets ≠ [] ∨ r.next.Unobjecting) : Unobjecting s (t.take r) := by
  refine ⟨?_, fun same => h.resolve_left fun answered => ?_⟩
  · simp only [take, List.length_append]
    omega
  · have := List.length_pos_iff.mpr answered
    simp only [take, List.length_append] at same
    omega

theorem fail_unobjecting (grown : s.sent.length ≤ t.sent.length) (unfinished : ¬ t.isOver = true)
    {fault : Fault} (other : ¬ IsObjection fault) : Unobjecting s (t.fail fault) := by
  rw [fail, if_neg unfinished]
  exact take_unobjecting grown (.inr (Exchange.unobjecting_of_failed rfl other))

/-- A session that has met nothing with an objection meets no further message with one, unless the client has
said more. -/
theorem Unobjecting.read (h : Unobjecting s t) (f : Frame) : Unobjecting s (t.read p c f) := by
  by_cases finished : t.isOver = true
  · rwa [read_over finished]
  cases reading : f.reading with
  | error fault =>
    rw [read_unreadable finished reading]
    exact fail_unobjecting h.grown finished (not_isObjection_unreadable fault)
  | ok reply =>
    rw [read_reply finished reading]
    by_cases same : t.sent.length = s.sent.length
    · refine take_unobjecting h.grown ?_
      obtain ⟨open_, -⟩ := h.unobjecting same
      unfold Exchange.objection? at open_
      unfold isOver Exchange.isOver at finished
      unfold Exchange.receive
      cases stage : t.exchange.stage with
      | listening mechanism => exact Exchange.listen_unobjecting stage reply
      | _ => simp_all
    · have := h.grown
      refine ⟨?_, fun back => ?_⟩
      · simp only [take, List.length_append]
        omega
      · simp only [take, List.length_append] at back
        omega

theorem Unobjecting.reads (h : Unobjecting s t) (frames : List Frame) :
    Unobjecting s (t.reads p c frames) := by
  induction frames generalizing t with
  | nil => exact h
  | cons f frames ih => exact ih (h.read f)

theorem read_awaiting (p : Scram.Primitives) (c : Credentials) {lead : String}
    (objects : s.exchange.objection? = some lead) (f : Frame) :
    Unobjecting s (s.read p c f) ∨
      ∃ reply, f.reading = .ok reply ∧ s.read p c f = s.object lead reply := by
  have unfinished := unfinished_of_objection objects
  cases reading : f.reading with
  | error fault =>
    rw [read_unreadable unfinished reading]
    exact .inl (fail_unobjecting (Nat.le_refl _) unfinished (not_isObjection_unreadable fault))
  | ok reply =>
    rw [read_reply unfinished reading]
    cases Exchange.receive_awaiting p c objects reply with
    | answered packets => exact .inl (take_unobjecting (Nat.le_refl _) (.inl packets))
    | calm next => exact .inl (take_unobjecting (Nat.le_refl _) (.inr next))
    | objected fails => exact .inr ⟨reply, rfl, by rw [fails, object]⟩

/-- From `s` to `t` nothing was said, and a failure since then is no objection. -/
structure Unmoved (s t : Session) : Prop where
  sent : t.sent = s.sent
  stage : ∀ fault, t.exchange.stage = .failed fault →
    s.exchange.stage = .failed fault ∨ ¬ IsObjection fault

theorem Unmoved.fail (h : Unmoved s t) {fault : Fault} (other : ¬ IsObjection fault) :
    Unmoved s (t.fail fault) := by
  rcases t.fail_cases fault with same | ⟨silent, failed⟩
  · rwa [same]
  · refine ⟨silent.trans h.sent, fun fault' failed' => .inr ?_⟩
    obtain rfl := Stage.failed.inj (failed.symm.trans failed')
    exact other

/-- What is no whole message, and the end, are met with silence and without an objection. -/
theorem left_unmoved (p : Scram.Primitives) (c : Credentials) (s : Session) (frames : List Frame)
    {tail : List UInt8} (cut : ∀ outcome rest, Wire.intake tail ≠ .taken outcome rest) (ending : Ending) :
    Unmoved (s.reads p c frames) (s.left p c frames tail ending) := by
  have still : Unmoved (s.reads p c frames) (s.reads p c frames) := ⟨rfl, fun _ => .inl⟩
  rcases left_ends p c s frames cut ending with ⟨left, same⟩ | ⟨fault, unsaid, left, same⟩
  · rw [same]
    exact ⟨rfl, still.stage⟩
  · have failed := still.fail (not_isObjection_unsaid unsaid)
    rw [same]
    exact ⟨failed.sent, failed.stage⟩

end Session

end Passage.Login
