import Passage.Login.Transcript
import Passage.Proofs.Login.Speech

namespace Passage.Login

open Wire (AuthRequest Packet Reply)

/-- From here on the client only waits: it proves nothing any more, until the server is ready. -/
def Waits (lines : List Spoken) : Prop :=
  (∃ status, lines.getLast? = some (.server (.ready status))) ∧
    ∀ packet, .client packet ∈ lines → packet.authenticates = false

/-- The server let the client in before it was ready, and every proof was given before that. -/
def LetIn (lines : List Spoken) : Prop :=
  ∃ before after, lines = before ++ .server (.auth .ok) :: after ∧ Waits after

theorem waits_ready (status : UInt8) : Waits [.server (.ready status)] :=
  ⟨⟨status, rfl⟩, by simp⟩

theorem waits_cons_server {reply : Reply} {lines : List Spoken}
    (unready : ∀ status, reply ≠ .ready status) :
    Waits (.server reply :: lines) ↔ Waits lines := by
  cases lines with
  | nil =>
    constructor
    · rintro ⟨⟨status, last⟩, -⟩
      simp only [List.getLast?_singleton, Option.some.injEq, Spoken.server.injEq] at last
      exact absurd last (unready status)
    · rintro ⟨⟨status, last⟩, -⟩
      cases last
  | cons line lines => simp [Waits, List.getLast?_cons_cons]

theorem letIn_cons (line : Spoken) (lines : List Spoken) :
    LetIn (line :: lines) ↔ (line = .server (.auth .ok) ∧ Waits lines) ∨ LetIn lines := by
  constructor
  · rintro ⟨before, after, he, waits⟩
    cases before with
    | nil =>
      simp only [List.nil_append, List.cons.injEq] at he
      obtain ⟨rfl, rfl⟩ := he
      exact .inl ⟨rfl, waits⟩
    | cons first before =>
      simp only [List.cons_append, List.cons.injEq] at he
      obtain ⟨-, rfl⟩ := he
      exact .inr ⟨before, after, rfl, waits⟩
  · rintro (⟨rfl, waits⟩ | ⟨before, after, rfl, waits⟩)
    · exact ⟨[], lines, rfl, waits⟩
    · exact ⟨line :: before, after, rfl, waits⟩

theorem not_letIn_nil : ¬ LetIn [] := by
  rintro ⟨before, after, he, -⟩
  cases before <;> cases he

theorem letIn_clients (packets : List Packet) (lines : List Spoken) :
    LetIn (packets.map .client ++ lines) ↔ LetIn lines := by
  induction packets with
  | nil => rfl
  | cons packet packets ih => simp [letIn_cons, ih]

theorem letIn_reply {reply : Reply} (h : reply ≠ .auth .ok) (packets : List Packet)
    (lines : List Spoken) :
    LetIn (.server reply :: (packets.map .client ++ lines)) ↔ LetIn lines := by
  rw [letIn_cons, letIn_clients]
  simp [h]

theorem getLast?_cons_eq_of_ne {request : AuthRequest} (h : request ≠ .ok)
    (more : List AuthRequest) :
    (request :: more).getLast? = some .ok ↔ more.getLast? = some .ok := by
  rw [List.getLast?_cons]
  cases more.getLast? <;> simp [h]

theorem getLast?_cons_eq_self (more : List AuthRequest) :
    (AuthRequest.ok :: more).getLast? = some .ok ↔
      (∀ request ∈ more, request = .ok) ∨ more.getLast? = some .ok := by
  rw [List.getLast?_cons]
  cases hl : more.getLast? with
  | none =>
    obtain rfl := List.getLast?_eq_none_iff.mp hl
    simp
  | some last =>
    have hm := List.mem_of_getLast? hl
    constructor
    · intro he
      exact .inr he
    · rintro (all | he)
      · rw [all last hm]
        rfl
      · exact he

namespace Exchange

def listens (e : Exchange) : Bool :=
  match e.stage with
  | .listening _ => true
  | _ => false

theorem isOver_of_listens {e : Exchange} (h : e.listens = true) : e.isOver = false := by
  unfold listens at h
  unfold isOver
  split at h
  · rename_i he
    rw [he]
  · cases h

/-- All that a message can lead to before the end of a login. -/
inductive Heard (e : Exchange) (reply : Reply) (r : Reaction) : Prop where
  | failed (fault : Fault) (fails : r.next.stage = .failed fault)
  | ready (status : UInt8) (told : reply = .ready status) (ends : r.next.stage = .ready)
      (silent : r.packets = [])
  | accepted (told : reply = .auth .ok) (stays : r.next.listens = true) (silent : r.packets = [])
  | noted (unready : ∀ status, reply ≠ .ready status) (plain : ∀ request, reply ≠ .auth request)
      (stays : r.next.listens = true) (silent : r.packets = [])
  | asked (request : AuthRequest) (asks : reply = .auth request) (more : request ≠ .ok)
      (goes : r.next.isOver = false) (answers : e.listens = true → r.packets ≠ [])

theorem listen_heard (c : Credentials) {e : Exchange} {mechanism : Option Report.Mechanism}
    (he : e.stage = .listening mechanism) (reply : Reply) :
    Heard e reply (e.listen c mechanism reply) := by
  have listens : e.listens = true := by simp [listens, he]
  cases reply with
  | auth request =>
    cases request with
    | ok => exact .accepted rfl listens rfl
    | cleartext =>
      cases hp : c.password with
      | none => exact .failed passwordMissing (by simp [listen, answerCleartext, hp, fail])
      | some password =>
        exact .asked .cleartext rfl (by simp) (by simp [listen, answerCleartext, hp, isOver])
          (fun _ => by simp [listen, answerCleartext, hp])
    | md5 => exact .failed _ rfl
    | sasl mechanisms =>
      by_cases offered : Scram.mechanism ∈ mechanisms
      · cases hp : c.password with
        | none => exact .failed passwordMissing (by simp [listen, answerOffer, offered, hp, fail])
        | some password =>
          exact .asked (.sasl mechanisms) rfl (by simp)
            (by simp [listen, answerOffer, offered, hp, isOver])
            (fun _ => by simp [listen, answerOffer, offered, hp])
      · rw [listen, answerOffer, if_pos offered]
        exact .failed _ rfl
    | saslContinue data => exact .failed _ rfl
    | saslFinal data => exact .failed _ rfl
  | keyData processId secretKey => exact .noted (by simp) (by simp) listens rfl
  | parameter name value => exact .noted (by simp) (by simp) listens rfl
  | notice n => exact .noted (by simp) (by simp) listens rfl
  | error n => exact .failed _ rfl
  | ready status => exact .ready status rfl rfl rfl

theorem prove_heard (p : Scram.Primitives) {e : Exchange} {client : Scram.Client}
    (he : e.stage = .proving client) (reply : Reply) : Heard e reply (e.prove p client reply) := by
  unfold prove
  split
  · rename_i data
    split
    · exact .failed _ rfl
    · split
      · exact .failed _ rfl
      · exact .asked (.saslContinue data) rfl (by simp) rfl (by simp [listens, he])
  · exact .failed _ rfl
  · exact .failed _ rfl

theorem verify_heard (p : Scram.Primitives) {e : Exchange} {verifier : Scram.Verifier}
    (he : e.stage = .verifying verifier) (reply : Reply) :
    Heard e reply (e.verify p verifier reply) := by
  unfold verify
  split
  · rename_i data
    split
    · exact .failed _ rfl
    · split
      · exact .failed _ rfl
      · exact .asked (.saslFinal data) rfl (by simp) rfl (by simp [listens, he])
  · exact .failed _ rfl
  · exact .failed _ rfl

/-- The client lets itself be told that the server is ready wherever the server may ask for
anything, and it never asks whether it was let in. -/
theorem receive_heard (p : Scram.Primitives) (c : Credentials) {e : Exchange}
    (unfinished : e.isOver = false) (reply : Reply) : Heard e reply (e.receive p c reply) := by
  unfold receive
  cases he : e.stage with
  | listening mechanism => exact listen_heard c he reply
  | proving client => exact prove_heard p he reply
  | verifying verifier => exact verify_heard p he reply
  | ready => simp [isOver, he] at unfinished
  | failed fault => simp [isOver, he] at unfinished

section

variable {p : Scram.Primitives} {c : Credentials} {e : Exchange} {replies : List Reply}

theorem converse_over (finished : e.isOver = true) (replies : List Reply) :
    e.converse p c replies = ([], e) := by
  cases replies with
  | nil => rfl
  | cons reply replies => rw [converse, if_pos finished]

theorem converse_cons (unfinished : e.isOver = false) (reply : Reply) (replies : List Reply) :
    e.converse p c (reply :: replies) =
      (.server reply :: ((e.receive p c reply).packets.map .client ++
          ((e.receive p c reply).next.converse p c replies).1),
        ((e.receive p c reply).next.converse p c replies).2) := by
  rw [converse, unfinished]
  rfl

theorem converse_append (before after : List Reply) :
    e.converse p c (before ++ after) =
      ((e.converse p c before).1 ++ ((e.converse p c before).2.converse p c after).1,
        ((e.converse p c before).2.converse p c after).2) := by
  induction before generalizing e with
  | nil => rfl
  | cons reply before ih =>
    cases unfinished : e.isOver with
    | true => simp [converse_over unfinished]
    | false => simp [converse_cons unfinished, ih]

theorem not_ready_of_failed {fault : Fault} (fails : e.stage = .failed fault) :
    (e.converse p c replies).2.stage ≠ .ready := by
  rw [converse_over (by simp [isOver, fails])]
  simp [fails]

/-- While the server may ask for anything, the client is done with its proofs exactly if the server
will ask for none. -/
theorem waits_iff_no_request (listens : e.listens = true)
    (ready : (e.converse p c replies).2.stage = .ready) :
    Waits (e.converse p c replies).1 ↔ ∀ request ∈ requests replies, request = .ok := by
  induction replies generalizing e with
  | nil =>
    have unfinished := isOver_of_listens listens
    change e.stage = .ready at ready
    simp [isOver, ready] at unfinished
  | cons reply replies ih =>
    have unfinished := isOver_of_listens listens
    rw [converse_cons unfinished] at ready ⊢
    dsimp only at ready ⊢
    cases receive_heard p c unfinished reply with
    | failed fault fails => exact absurd ready (not_ready_of_failed fails)
    | ready status told ends silent =>
      subst told
      rw [converse_over (by simp [isOver, ends]), silent]
      simp [waits_ready, requests]
    | accepted told stays silent =>
      subst told
      rw [silent, List.map_nil, List.nil_append, waits_cons_server (by simp), ih stays ready]
      simp [requests]
    | noted unready plain stays silent =>
      rw [silent, List.map_nil, List.nil_append, waits_cons_server unready, ih stays ready]
      cases reply <;> simp_all [requests]
    | asked request asks more goes answers =>
      subst asks
      obtain ⟨packet, hp⟩ := List.exists_mem_of_ne_nil _ (answers listens)
      constructor
      · rintro ⟨-, quiet⟩
        have := quiet packet (by simp [hp])
        rw [receive_packets hp] at this
        cases this
      · intro all
        exact absurd (all request (by simp [requests])) more

theorem letIn_converse_iff (unfinished : e.isOver = false)
    (ready : (e.converse p c replies).2.stage = .ready) :
    LetIn (e.converse p c replies).1 ↔ (requests replies).getLast? = some .ok := by
  -- Induction on the messages, from any unfinished point: a yes that comes now only decides if no
  -- request follows it, which is what the lemma before says.
  induction replies generalizing e with
  | nil =>
    change e.stage = .ready at ready
    simp [isOver, ready] at unfinished
  | cons reply replies ih =>
    rw [converse_cons unfinished] at ready ⊢
    dsimp only at ready ⊢
    cases receive_heard p c unfinished reply with
    | failed fault fails => exact absurd ready (not_ready_of_failed fails)
    | ready status told ends silent =>
      subst told
      rw [letIn_reply (by simp), converse_over (by simp [isOver, ends])]
      simp [not_letIn_nil, requests]
    | accepted told stays silent =>
      subst told
      have unfinished' := isOver_of_listens stays
      rw [silent, List.map_nil, List.nil_append, letIn_cons, ih unfinished' ready,
        waits_iff_no_request stays ready, requests, getLast?_cons_eq_self]
      simp
    | noted unready plain stays silent =>
      rw [letIn_reply (plain _), ih (isOver_of_listens stays) ready]
      cases reply <;> simp_all [requests]
    | asked request asks more goes answers =>
      subst asks
      rw [letIn_reply (by simpa using more), ih goes ready, requests, getLast?_cons_eq_of_ne more]

end
end Exchange

theorem transcript_snoc {p : Scram.Primitives} {c : Credentials} {replies : List Reply}
    (unfinished : (transcript p c replies).2.isOver = false) (reply : Reply) :
    transcript p c (replies ++ [reply]) =
      let r := (transcript p c replies).2.receive p c reply
      ((transcript p c replies).1 ++ .server reply :: r.packets.map .client, r.next) := by
  change (({} : Exchange).converse p c replies).2.isOver = false at unfinished
  simp [transcript, Exchange.converse_append, Exchange.converse, unfinished]

theorem packets_append (a b : List Spoken) :
    Spoken.packets (a ++ b) = Spoken.packets a ++ Spoken.packets b :=
  List.filterMap_append

theorem packets_clients (packets : List Packet) :
    Spoken.packets (packets.map .client) = packets := by
  rw [Spoken.packets, List.filterMap_map]
  exact List.filterMap_some

namespace Session

/-- A session is what the transcript of the messages it has read tells, or something that is no message
has made it fail. -/
def Told (p : Scram.Primitives) (c : Credentials) (s : Session) : Prop :=
  ∃ replies, s.sent = Spoken.packets (transcript p c replies).1 ∧
    (s.exchange = (transcript p c replies).2 ∨ ∃ fault, s.exchange.stage = .failed fault)

section

variable {p : Scram.Primitives} {c : Credentials} {s : Session}

theorem start_told (p : Scram.Primitives) (c : Credentials) : (start c).Told p c :=
  ⟨[], rfl, .inl rfl⟩

theorem Told.fail (h : s.Told p c) (fault : Fault) : (s.fail fault).Told p c := by
  unfold Session.fail
  split
  · exact h
  · obtain ⟨replies, hsent, -⟩ := h
    exact ⟨replies, by simp [take, Exchange.fail, hsent], .inr ⟨fault, rfl⟩⟩

theorem Told.take (h : s.Told p c) (unfinished : ¬ s.isOver = true) (reply : Wire.Reply) :
    (s.take (s.exchange.receive p c reply)).Told p c := by
  obtain ⟨replies, hsent, he | ⟨fault, failed⟩⟩ := h
  · have hover : (transcript p c replies).2.isOver = false := by
      rw [← he]
      exact Bool.eq_false_iff.mpr unfinished
    refine ⟨replies ++ [reply], ?_, .inl ?_⟩
    · simp only [transcript_snoc hover, packets_append, Session.take, hsent, he]
      congr 1
      exact (packets_clients _).symm
    · rw [transcript_snoc hover, Session.take, he]
  · exact absurd (by simp [isOver, Exchange.isOver, failed]) unfinished

theorem Told.settle (h : s.Told p c) : (s.settle p c).Told p c := by
  induction s using settle.induct p c with
  | case1 s finished =>
    rw [settle_over finished]
    exact h
  | case2 s unfinished starved =>
    rw [settle_starved unfinished starved]
    exact h
  | case3 s unfinished fault misframed =>
    rw [settle_misframed unfinished misframed]
    exact h.fail _
  | case4 s unfinished fault rest taken =>
    rw [settle_unreadable unfinished taken]
    exact Told.fail (s := { s with buffer := rest }) h _
  | case5 s unfinished reply rest taken ih =>
    rw [settle_reply unfinished taken]
    exact ih (Told.take (s := { s with buffer := rest }) h unfinished reply)

theorem Told.hear (h : s.Told p c) (event : Event) : (s.hear p c event).Told p c := by
  cases event with
  | bytes data =>
    simp only [Session.hear, feed]
    split
    · exact h
    · exact Told.settle (s := { s with buffer := s.buffer ++ data }) h
  | ended => exact h.fail _
  | broken fault => exact h.fail _
  | handshake succeeded => exact h

theorem Told.attend (h : s.Told p c) (events : List Event) : (s.attend p c events).Told p c := by
  induction events generalizing s with
  | nil => exact h
  | cons event events ih => exact ih (h.hear event)

/-- However its bytes come, a login that ends well is the transcript of some messages. -/
theorem attend_transcript {events : List Event}
    (ready : ((start c).attend p c events).exchange.stage = .ready) :
    ∃ replies, ((start c).attend p c events).sent = Spoken.packets (transcript p c replies).1 ∧
      ((start c).attend p c events).exchange = (transcript p c replies).2 := by
  obtain ⟨replies, hsent, he | ⟨fault, failed⟩⟩ := (start_told p c).attend events
  · exact ⟨replies, hsent, he⟩
  · rw [failed] at ready
    cases ready

end
end Session

/-- A login that ends well was let in, after its last proof, exactly if the last thing that the server
asked for was nothing. -/
theorem letIn_iff_last_ok (p : Scram.Primitives) (c : Credentials) (replies : List Reply)
    (ready : (transcript p c replies).2.stage = .ready) :
    LetIn (transcript p c replies).1 ↔ (requests replies).getLast? = some .ok := by
  change LetIn (.client c.startup :: (({} : Exchange).converse p c replies).1) ↔ _
  rw [letIn_cons]
  simpa using Exchange.letIn_converse_iff rfl ready

theorem letIn_after_password :
    let c : Credentials := ⟨"app", "app", some "secret", none, "abc"⟩
    let replies : List Reply :=
      [.auth .cleartext, .auth .ok, .parameter "server_version" "16.2", .ready 73]
    (transcript .sha256 c replies).2.stage = .ready ∧ LetIn (transcript .sha256 c replies).1 :=
  ⟨rfl, (letIn_iff_last_ok _ _ _ rfl).mpr rfl⟩

/-- A server that is ready at once is believed, and nobody was let in. -/
theorem ready_unasked :
    let c : Credentials := ⟨"app", "app", some "secret", none, "abc"⟩
    (transcript .sha256 c [.ready 73]).2.stage = .ready ∧
      ¬ LetIn (transcript .sha256 c [.ready 73]).1 := by
  refine ⟨rfl, ?_⟩
  change ¬ LetIn [.client _, .server (.ready 73)]
  simp [letIn_cons, not_letIn_nil]

end Passage.Login
