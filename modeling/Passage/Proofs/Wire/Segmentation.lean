import Passage.Proofs.Wire.Bounds

namespace Passage.Wire

/-- A whole message on the wire: its length counts itself and the body, not the tag. -/
structure Frame where
  tag : UInt8
  (a b c d : UInt8)
  body : List UInt8
  counted : (signedWord a b c d).toInt = body.length + 4
  small : body.length + 4 ≤ maxLength

namespace Frame

def length (f : Frame) : Int := (signedWord f.a f.b f.c f.d).toInt

def bytes (f : Frame) : List UInt8 := f.tag :: f.a :: f.b :: f.c :: f.d :: f.body

/-- What the body comes to, a fault when it cannot be read. -/
def reading (f : Frame) : Outcome := Reply.read f.tag f.body

theorem length_bytes (f : Frame) : (f.bytes.length : Int) = 1 + f.length := by
  simp only [bytes, length, f.counted, List.length_cons]
  omega

end Frame

namespace Intake

def left (buffer : List UInt8) : Intake → List UInt8
  | .starved | .misframed _ => buffer
  | .taken _ rest => rest

def found : Intake → List Outcome
  | .starved => []
  | .misframed fault => [.error fault]
  | .taken outcome _ => [outcome]

end Intake

theorem intake_frame (f : Frame) (rest : List UInt8) :
    intake (f.bytes ++ rest) = .taken f.reading rest := by
  have small := f.small
  have least : ¬ ((f.body.length : Int) + 4 < 4 ∨ (maxLength : Int) < f.body.length + 4) := by omega
  have count : ((f.body.length : Int) + 4).toNat - 4 = f.body.length := by omega
  change intake (f.tag :: f.a :: f.b :: f.c :: f.d :: (f.body ++ rest)) = _
  simp only [intake, f.counted, least, if_false, count, List.take_left', List.drop_left']
  rw [if_neg (by simp)]
  rfl

/-- A length that no message has. -/
def Misframed (a b c d : UInt8) : Prop :=
  (signedWord a b c d).toInt < 4 ∨ (maxLength : Int) < (signedWord a b c d).toInt

theorem intake_misframed {a b c d : UInt8} (h : Misframed a b c d) (tag : UInt8)
    (rest : List UInt8) :
    intake (tag :: a :: b :: c :: d :: rest) =
      .misframed (.badLength (signedWord a b c d).toInt tag) := by
  unfold Misframed at h
  simp only [intake, h, if_true]

/-- Nothing is taken, or one whole message. -/
theorem intake_cases (buffer : List UInt8) :
    intake buffer = .starved ∨
    (∃ tag a b c d rest, buffer = tag :: a :: b :: c :: d :: rest ∧ Misframed a b c d) ∨
    ∃ (f : Frame) (rest : List UInt8), buffer = f.bytes ++ rest := by
  match buffer with
  | [] | [_] | [_, _] | [_, _, _] | [_, _, _, _] => exact .inl rfl
  | tag :: a :: b :: c :: d :: rest =>
    by_cases size : Misframed a b c d
    · exact .inr (.inl ⟨tag, a, b, c, d, rest, rfl, size⟩)
    unfold Misframed at size
    by_cases short : rest.length < (signedWord a b c d).toInt.toNat - 4
    · left
      simp only [intake, size, if_false, short, if_true]
    · obtain ⟨body, more, rfl, count⟩ : ∃ body more, rest = body ++ more ∧
          body.length = (signedWord a b c d).toInt.toNat - 4 :=
        ⟨_, _, (List.take_append_drop _ rest).symm, List.length_take_of_le (Nat.not_lt.mp short)⟩
      have counted : (signedWord a b c d).toInt = body.length + 4 := by omega
      have small : body.length + 4 ≤ maxLength := by omega
      exact .inr (.inr ⟨⟨tag, a, b, c, d, body, counted, small⟩, more, rfl⟩)

theorem misframed_append {buffer : List UInt8} {fault : ReplyFault}
    (h : intake buffer = .misframed fault) (more : List UInt8) :
    intake (buffer ++ more) = .misframed fault := by
  rcases intake_cases buffer with starved | ⟨tag, a, b, c, d, rest, rfl, size⟩ | ⟨f, rest, rfl⟩
  · cases starved.symm.trans h
  · cases (intake_misframed size tag rest).symm.trans h
    exact intake_misframed size tag (rest ++ more)
  · cases (intake_frame f rest).symm.trans h

theorem taken_append {buffer rest : List UInt8} {outcome : Outcome}
    (h : intake buffer = .taken outcome rest) (more : List UInt8) :
    intake (buffer ++ more) = .taken outcome (rest ++ more) := by
  rcases intake_cases buffer with starved | ⟨tag, a, b, c, d, rest, rfl, size⟩ | ⟨f, rest, rfl⟩
  · cases starved.symm.trans h
  · cases (intake_misframed size tag rest).symm.trans h
  · cases (intake_frame f rest).symm.trans h
    rw [List.append_assoc]
    exact intake_frame f (rest ++ more)

/-- So many looks, each at what the one before has left, whatever that one came to. -/
def looks : Nat → List UInt8 → List Outcome × List UInt8
  | 0, buffer => ([], buffer)
  | n + 1, buffer =>
    let (outcomes, left) := looks n ((intake buffer).left buffer)
    ((intake buffer).found ++ outcomes, left)

/-- A body that cannot be read costs its own message and none behind it. -/
theorem looks_frames (frames : List Frame) (more : List UInt8) :
    looks frames.length (frames.flatMap Frame.bytes ++ more) =
      (frames.map Frame.reading, more) := by
  induction frames with
  | nil => rfl
  | cons f frames ih =>
    rw [List.flatMap_cons, List.append_assoc, List.length_cons, looks, intake_frame]
    simp only [Intake.left, Intake.found, ih, List.map_cons, List.singleton_append]

theorem drain_starved {buffer : List UInt8} (h : intake buffer = .starved) :
    drain buffer = ([], buffer) := by
  rw [drain]
  split <;> simp_all

theorem drain_misframed {buffer : List UInt8} {fault : ReplyFault}
    (h : intake buffer = .misframed fault) : drain buffer = ([.error fault], buffer) := by
  rw [drain]
  split <;> simp_all

theorem drain_unreadable {buffer rest : List UInt8} {fault : ReplyFault}
    (h : intake buffer = .taken (.error fault) rest) : drain buffer = ([.error fault], rest) := by
  rw [drain]
  split <;> simp_all

theorem drain_reply {buffer rest : List UInt8} {reply : Reply}
    (h : intake buffer = .taken (.ok reply) rest) :
    drain buffer = (.ok reply :: (drain rest).1, (drain rest).2) := by
  rw [drain]
  split <;> simp_all

/-- No message was refused. -/
def Clean (outcomes : List Outcome) : Prop :=
  ∀ outcome ∈ outcomes, ∃ reply, outcome = .ok reply

/-- The outcomes up to the first fault, that one included. -/
def untilFault : List Outcome → List Outcome
  | [] => []
  | .ok reply :: rest => .ok reply :: untilFault rest
  | .error fault :: _ => [.error fault]

theorem clean_cons {outcome : Outcome} {outcomes : List Outcome} :
    Clean (outcome :: outcomes) ↔ (∃ reply, outcome = .ok reply) ∧ Clean outcomes :=
  List.forall_mem_cons

theorem clean_append {outcomes more : List Outcome} :
    Clean (outcomes ++ more) ↔ Clean outcomes ∧ Clean more :=
  List.forall_mem_append

theorem not_clean_of_mem {fault : ReplyFault} {outcomes : List Outcome}
    (h : .error fault ∈ outcomes) : ¬ Clean outcomes := by
  intro clean
  obtain ⟨reply, refused⟩ := clean _ h
  cases refused

theorem untilFault_append {outcomes : List Outcome} (h : Clean outcomes) (more : List Outcome) :
    untilFault (outcomes ++ more) = outcomes ++ untilFault more := by
  induction outcomes with
  | nil => rfl
  | cons outcome rest ih =>
    obtain ⟨⟨reply, rfl⟩, clean⟩ := clean_cons.mp h
    rw [List.cons_append, untilFault, ih clean]
    rfl

/-- A run of looks ends when nothing whole is left or a message was refused. -/
theorem drain_cases (buffer : List UInt8) :
    (Clean (drain buffer).1 ∧ intake (drain buffer).2 = .starved) ∨
      ∃ replies fault, Clean replies ∧ (drain buffer).1 = replies ++ [.error fault] := by
  induction buffer using drain.induct with
  | case1 buffer starved =>
    rw [drain_starved starved]
    exact .inl ⟨List.forall_mem_nil _, starved⟩
  | case2 buffer fault misframed =>
    rw [drain_misframed misframed]
    exact .inr ⟨[], fault, List.forall_mem_nil _, rfl⟩
  | case3 buffer fault rest unreadable =>
    rw [drain_unreadable unreadable]
    exact .inr ⟨[], fault, List.forall_mem_nil _, rfl⟩
  | case4 buffer reply rest taken _ _ _ ih =>
    rw [drain_reply taken]
    rcases ih with ⟨clean, starved⟩ | ⟨replies, fault, clean, ends⟩
    · exact .inl ⟨clean_cons.mpr ⟨⟨reply, rfl⟩, clean⟩, starved⟩
    · exact .inr ⟨.ok reply :: replies, fault, clean_cons.mpr ⟨⟨reply, rfl⟩, clean⟩,
        congrArg (.ok reply :: ·) ends⟩

/-- Without a fault the looks go on where the first bytes ran out. -/
theorem drain_append {buffer : List UInt8} (h : Clean (drain buffer).1) (more : List UInt8) :
    drain (buffer ++ more) =
      ((drain buffer).1 ++ (drain ((drain buffer).2 ++ more)).1,
        (drain ((drain buffer).2 ++ more)).2) := by
  induction buffer using drain.induct with
  | case1 buffer starved => rw [drain_starved starved, List.nil_append]
  | case2 buffer fault misframed =>
    rw [drain_misframed misframed] at h
    exact absurd h (not_clean_of_mem List.mem_cons_self)
  | case3 buffer fault rest unreadable =>
    rw [drain_unreadable unreadable] at h
    exact absurd h (not_clean_of_mem List.mem_cons_self)
  | case4 buffer reply rest taken _ _ _ ih =>
    rw [drain_reply taken] at h ⊢
    rw [drain_reply (taken_append taken more), ih (clean_cons.mp h).2]
    rfl

/-- What comes behind a fault has no say in what led to it. -/
theorem drain_append_of_fault {buffer : List UInt8} {replies : List Outcome} {fault : ReplyFault}
    (h : (drain buffer).1 = replies ++ [.error fault]) (more : List UInt8) :
    (drain (buffer ++ more)).1 = (drain buffer).1 := by
  induction buffer using drain.induct generalizing replies with
  | case1 buffer starved =>
    rw [drain_starved starved] at h
    cases replies <;> cases h
  | case2 buffer fault misframed =>
    rw [drain_misframed misframed, drain_misframed (misframed_append misframed more)]
  | case3 buffer fault rest unreadable =>
    rw [drain_unreadable unreadable, drain_unreadable (taken_append unreadable more)]
  | case4 buffer reply rest taken _ _ _ ih =>
    rw [drain_reply taken] at h ⊢
    rw [drain_reply (taken_append taken more)]
    cases replies with
    | nil => cases h
    | cons _ replies => rw [ih (List.cons.inj h).2]

/-- All that the looks after each piece come to. -/
def outcomes (buffer : List UInt8) (pieces : List (List UInt8)) : List Outcome :=
  (feed buffer pieces).flatMap Prod.fst

/-- What is unread once every piece has arrived. -/
def unread (buffer : List UInt8) (pieces : List (List UInt8)) : List UInt8 :=
  pieces.foldl (fun left piece => (drain (left ++ piece)).2) buffer

theorem outcomes_cons (buffer piece : List UInt8) (pieces : List (List UInt8)) :
    outcomes buffer (piece :: pieces) =
      (drain (buffer ++ piece)).1 ++ outcomes (drain (buffer ++ piece)).2 pieces := rfl

/-- Between two pieces the buffer holds nothing whole, so the looks go on as if it had never ended
there. -/
theorem feed_join {buffer : List UInt8} (h : intake buffer = .starved)
    (pieces : List (List UInt8)) :
    untilFault (outcomes buffer pieces) = (drain (buffer ++ pieces.flatten)).1 ∧
      (Clean (outcomes buffer pieces) →
        unread buffer pieces = (drain (buffer ++ pieces.flatten)).2) := by
  induction pieces generalizing buffer with
  | nil =>
    rw [List.flatten_nil, List.append_nil, drain_starved h]
    exact ⟨rfl, fun _ => rfl⟩
  | cons piece pieces ih =>
    rw [outcomes_cons, List.flatten_cons, ← List.append_assoc]
    rcases drain_cases (buffer ++ piece) with ⟨clean, starved⟩ | ⟨replies, fault, clean, ends⟩
    · obtain ⟨same, rest⟩ := ih starved
      rw [untilFault_append clean, same, drain_append clean]
      exact ⟨rfl, fun h => rest (clean_append.mp h).2⟩
    · -- what later pieces come to stands behind the fault
      rw [drain_append_of_fault ends, ends, List.append_assoc, untilFault_append clean]
      exact ⟨rfl, fun h => absurd h (not_clean_of_mem (List.mem_append_right _ List.mem_cons_self))⟩

/-- Any cut of the same bytes gives the same messages up to the first fault, and without one the
same unread rest. A look takes nothing or one message for the length it states, and what is behind a
message is read the same whether that message could be read or not. No look leaves the buffer. -/
theorem decoding_uncut :
    (∀ pieces : List (List UInt8),
      untilFault (outcomes [] pieces) = untilFault (outcomes [] [pieces.flatten]) ∧
      (Clean (outcomes [] pieces) → unread [] pieces = unread [] [pieces.flatten])) ∧
    (∀ buffer : List UInt8,
      ((intake buffer).left buffer = buffer ∧ (intake buffer = .starved ∨
        ∃ length tag, (length < 4 ∨ (maxLength : Int) < length) ∧
          intake buffer = .misframed (.badLength length tag))) ∨
      ∃ (f : Frame) (rest : List UInt8), buffer = f.bytes ++ rest ∧
        (f.bytes.length : Int) = 1 + f.length ∧ intake buffer = .taken f.reading rest) ∧
    (∀ (frames : List Frame) (more : List UInt8),
      looks frames.length (frames.flatMap Frame.bytes ++ more) =
        (frames.map Frame.reading, more)) ∧
    ∀ buffer : List UInt8, Checked.intake buffer = some (intake buffer) := by
  refine ⟨fun pieces => ?_, fun buffer => ?_, looks_frames, Checked.intake_inside⟩
  · have cut := feed_join (by rfl : intake [] = .starved) pieces
    have whole := feed_join (by rfl : intake [] = .starved) [pieces.flatten]
    rw [List.flatten_singleton] at whole
    refine ⟨cut.1.trans whole.1.symm, fun clean => (cut.2 clean).trans ?_⟩
    simp only [unread, List.foldl_cons, List.foldl_nil, List.nil_append]
  · rcases intake_cases buffer with starved | ⟨tag, a, b, c, d, rest, rfl, size⟩ | ⟨f, rest, rfl⟩
    · exact .inl ⟨by rw [starved]; rfl, .inl starved⟩
    · have found := intake_misframed size tag rest
      exact .inl ⟨by rw [found]; rfl, .inr ⟨_, tag, size, found⟩⟩
    · exact .inr ⟨f, rest, rfl, f.length_bytes, intake_frame f rest⟩

/-- A ready message cut inside its length, with the first byte of the next one behind it. -/
theorem decoding_uncut_ready :
    outcomes [] [[90, 0, 0], [0, 5, 73, 90]] = [.ok (.ready 73)] ∧
      unread [] [[90, 0, 0], [0, 5, 73, 90]] = unread [] [[90, 0, 0, 0, 5, 73, 90]] := by
  have first : drain [90, 0, 0] = ([], [90, 0, 0]) := drain_starved rfl
  have taken : intake [90, 0, 0, 0, 5, 73, 90] = .taken (.ok (.ready 73)) [90] := rfl
  have second : drain [90, 0, 0, 0, 5, 73, 90] = ([.ok (.ready 73)], [90]) := by
    rw [drain_reply taken, drain_starved rfl]
  have read : outcomes [] [[90, 0, 0], [0, 5, 73, 90]] = [.ok (.ready 73)] := by
    simp only [outcomes, feed, List.nil_append, List.cons_append, first, second,
      List.flatMap_cons, List.flatMap_nil, List.append_nil]
  refine ⟨read, (decoding_uncut.1 [[90, 0, 0], [0, 5, 73, 90]]).2 fun outcome found => ?_⟩
  rw [read] at found
  exact ⟨.ready 73, List.mem_singleton.mp found⟩

end Passage.Wire
