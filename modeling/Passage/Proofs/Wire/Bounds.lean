import Passage.Wire.Intake

namespace Passage.Wire.Checked

def byte (buffer : List UInt8) (position : Nat) : Option UInt8 :=
  buffer[position]?

def cut (buffer : List UInt8) (count : Nat) : Option (List UInt8 × List UInt8) :=
  if count ≤ buffer.length then some (buffer.take count, buffer.drop count) else none

def skip (buffer : List UInt8) (count : Nat) : Option (List UInt8) :=
  (cut buffer count).map Prod.snd

/-- A reading that can fail as the message demands, or come to nothing. -/
abbrev Reading (α : Type) := ExceptT ReplyFault Option α

/-- A reading that stays inside the buffer. -/
def inside {α : Type} (outcome : Except ReplyFault α) : Reading α :=
  ExceptT.mk (some outcome)

theorem inside_bind {α β : Type} {outcome : Except ReplyFault α} {f : α → Reading β}
    {g : α → Except ReplyFault β} (h : ∀ a, f a = inside (g a)) :
    (inside outcome >>= f) = inside (outcome >>= g) := by
  cases outcome with
  | error fault => rfl
  | ok a => exact h a

theorem inside_map {α β : Type} (f : α → β) (outcome : Except ReplyFault α) :
    f <$> inside outcome = inside (outcome.map f) := by
  cases outcome <;> rfl

theorem cut_append (front rest : List UInt8) :
    cut (front ++ rest) front.length = some (front, rest) := by
  rw [cut, if_pos (by simp), List.take_left', List.drop_left']
  all_goals rfl

theorem skip_append (front rest : List UInt8) :
    skip (front ++ rest) front.length = some rest := by
  rw [skip, cut_append]
  rfl

def word (what : String) (body : List UInt8) : Reading (Int32 × List UInt8) :=
  if body.length < 4 then throw (.truncated what)
  else do
    let (front, rest) ← cut body 4
    return (signedWord (← byte front 0) (← byte front 1) (← byte front 2) (← byte front 3), rest)

theorem word_inside (what : String) (body : List UInt8) :
    word what body = inside (takeWord what body) := by
  match body with
  | [] | [_] | [_, _] | [_, _, _] => rfl
  | a :: b :: c :: d :: rest =>
    have front : cut (a :: b :: c :: d :: rest) 4 = some ([a, b, c, d], rest) :=
      cut_append [a, b, c, d] rest
    rw [word, if_neg (by simp), front]
    rfl

def upToNul (what : String) (body : List UInt8) : Reading (List UInt8 × List UInt8) :=
  match body.findIdx? (· = 0) with
  | none => throw (.unterminated what)
  | some position => do
    let (text, rest) ← cut body position
    return (text, ← skip rest 1)

theorem findIdx?_eq_splitNul (body : List UInt8) :
    body.findIdx? (· = 0) = (splitNul body).map fun (text, _) => text.length := by
  induction body with
  | nil => rfl
  | cons b bs ih =>
    by_cases hb : b = 0
    · simp [splitNul, List.findIdx?_cons, hb]
    · rw [List.findIdx?_cons, splitNul, if_neg hb, if_neg (by simpa using hb), ih, Option.map_map,
        Option.map_map]
      rfl

theorem upToNul_inside (what : String) (body : List UInt8) :
    upToNul what body = inside ((splitNul body).elim (.error (.unterminated what)) .ok) := by
  rw [upToNul, findIdx?_eq_splitNul]
  cases hs : splitNul body with
  | none => rfl
  | some parts =>
    obtain ⟨text, rest⟩ := parts
    obtain ⟨rfl, -⟩ := eq_append_of_splitNul hs
    have behind : skip (0 :: rest) 1 = some rest := skip_append [0] rest
    simp only [Option.map_some, Option.elim_some, cut_append]
    change (do return (text, ← skip (0 :: rest) 1) : Reading _) = _
    rw [behind]
    rfl

theorem splitNul_of_upToNul {what : String} {body : List UInt8} {parts : List UInt8 × List UInt8}
    (h : (upToNul what body).run = some (.ok parts)) : splitNul body = some parts := by
  rw [upToNul_inside] at h
  cases hs : splitNul body with
  | none =>
    rw [hs] at h
    cases h
  | some found =>
    rw [hs] at h
    cases h
    rfl

def text (what : String) (body : List UInt8) : Reading (String × List UInt8) := do
  let (front, rest) ← upToNul what body
  return (Text.lossyText front, rest)

theorem text_inside (what : String) (body : List UInt8) :
    text what body = inside (takeText what body) := by
  rw [text, upToNul_inside, takeText]
  cases splitNul body <;> rfl

def mechanisms (body : List UInt8) : Reading (List String) :=
  if body.isEmpty then pure []
  else
    match _h : (upToNul "SASL mechanism" body).run with
    | none => ExceptT.mk none
    | some (.error fault) => throw fault
    | some (.ok (name, rest)) =>
      if name.isEmpty then pure []
      else do
        let names ← mechanisms rest
        return Text.lossyText name :: names
termination_by body.length
decreasing_by exact length_splitNul_lt (splitNul_of_upToNul _h)

theorem mechanisms_step {body : List UInt8} (nonempty : ¬ body.isEmpty = true) :
    mechanisms body = do
      let (name, rest) ← upToNul "SASL mechanism" body
      if name.isEmpty then return []
      let names ← mechanisms rest
      return Text.lossyText name :: names := by
  rw [mechanisms, if_neg nonempty]
  split
  all_goals
    rename_i found
    rw [show upToNul "SASL mechanism" body = ExceptT.mk _ from found]
    rfl

theorem mechanisms_inside (body : List UInt8) :
    mechanisms body = inside (readMechanisms body) := by
  induction h : body.length using Nat.strongRecOn generalizing body with
  | ind length ih =>
    by_cases empty : body.isEmpty = true
    · rw [mechanisms, readMechanisms, if_pos empty, if_pos empty]
      rfl
    · rw [mechanisms_step empty, upToNul_inside]
      cases hs : splitNul body with
      | none =>
        rw [readMechanisms_unterminated (by simpa using empty) hs]
        rfl
      | some parts =>
        obtain ⟨name, rest⟩ := parts
        cases name with
        | nil =>
          rw [readMechanisms_end hs]
          rfl
        | cons b bs =>
          have shorter := h ▸ length_splitNul_lt hs
          rw [readMechanisms_name hs (List.cons_ne_nil b bs), ← inside_map,
            ← ih rest.length shorter rest rfl, map_eq_pure_bind]
          rfl

/-- The text of a field, behind its type. -/
def fieldText (body : List UInt8) : Reading (List UInt8 × List UInt8) := do
  upToNul "notice field" (← skip body 1)

theorem fieldText_cons (field : UInt8) (body : List UInt8) :
    fieldText (field :: body) = upToNul "notice field" body := by
  have behind : skip (field :: body) 1 = some body := skip_append [field] body
  rw [fieldText, behind]
  rfl

def notice (n : Notice) (body : List UInt8) : Reading Notice :=
  match body with
  | [] => pure n
  | field :: behind =>
    if field = 0 then do
      let _ ← skip (field :: behind) 1
      return n
    else
      match _h : (fieldText (field :: behind)).run with
      | none => ExceptT.mk none
      | some (.error fault) => throw fault
      | some (.ok (value, rest)) => notice (n.set field (Text.lossyText value)) rest
termination_by body.length
decreasing_by
  rw [fieldText_cons] at _h
  exact Nat.lt_succ_of_lt (length_splitNul_lt (splitNul_of_upToNul _h))

theorem notice_step {field : UInt8} (nonzero : field ≠ 0) (n : Notice) (behind : List UInt8) :
    notice n (field :: behind) =
      upToNul "notice field" behind >>= fun (value, rest) =>
        notice (n.set field (Text.lossyText value)) rest := by
  rw [notice, if_neg nonzero]
  split
  all_goals
    rename_i found
    rw [fieldText_cons] at found
    rw [show upToNul "notice field" behind = ExceptT.mk _ from found]
    rfl

theorem notice_inside (n : Notice) (body : List UInt8) :
    notice n body = inside (readNotice n body) := by
  induction h : body.length using Nat.strongRecOn generalizing n body with
  | ind length ih =>
    cases body with
    | nil =>
      rw [notice, readNotice_nil]
      rfl
    | cons field behind =>
      by_cases last : field = 0
      · have skipped : skip (field :: behind) 1 = some behind := skip_append [field] behind
        rw [notice, if_pos last, skipped, last, readNotice_end]
        rfl
      · rw [notice_step last, upToNul_inside]
        cases hs : splitNul behind with
        | none =>
          rw [readNotice_unterminated last hs]
          rfl
        | some parts =>
          obtain ⟨value, rest⟩ := parts
          have shorter : rest.length < length := h ▸ Nat.lt_succ_of_lt (length_splitNul_lt hs)
          rw [readNotice_field last hs]
          exact ih rest.length shorter _ rest rfl

def auth (body : List UInt8) : Reading AuthRequest := do
  let (code, rest) ← word "auth request" body
  match code.toInt with
  | 0 => return .ok
  | 3 => return .cleartext
  | 5 => return .md5
  | 10 => return .sasl (← mechanisms rest)
  | 11 => return .saslContinue rest
  | 12 => return .saslFinal rest
  | other => throw (.unsupportedAuth other)

theorem auth_inside (body : List UInt8) : auth body = inside (readAuth body) := by
  rw [auth, readAuth, word_inside]
  apply inside_bind
  rintro ⟨code, rest⟩
  dsimp only
  rw [mechanisms_inside]
  generalize code.toInt = request
  by_cases known : request ∈ [0, 3, 5, 10, 11, 12]
  · simp only [List.mem_cons, List.not_mem_nil, or_false] at known
    rcases known with rfl | rfl | rfl | rfl | rfl | rfl <;>
      first | rfl | exact inside_bind fun _ => rfl
  · simp only [List.mem_cons, List.not_mem_nil, or_false, not_or] at known
    obtain ⟨not0, not3, not5, not10, not11, not12⟩ := known
    -- both sides pass the known codes over by these hypotheses
    simp only
    rfl

def keyData (body : List UInt8) : Reading Reply := do
  let (processId, rest) ← word "backend key data" body
  let (secretKey, _) ← word "backend key data" rest
  return .keyData processId secretKey

def parameter (body : List UInt8) : Reading Reply := do
  let (name, rest) ← text "parameter name" body
  let (value, _) ← text "parameter value" rest
  return .parameter name value

def reply (tag : UInt8) (body : List UInt8) : Reading Reply :=
  if tag = 82 then .auth <$> auth body
  else if tag = 75 then keyData body
  else if tag = 83 then parameter body
  else if tag = 69 then .error <$> notice {} body
  else if tag = 78 then .notice <$> notice {} body
  else if tag = 90 then
    match byte body 0 with
    | some status => return .ready status
    | none => throw (.truncated "ReadyForQuery")
  else throw (.unexpected tag)

theorem reply_inside (tag : UInt8) (body : List UInt8) :
    reply tag body = inside (Reply.read tag body) := by
  unfold reply Reply.read
  rw [auth_inside, notice_inside, inside_map, inside_map, inside_map]
  split
  · rfl
  split
  · rw [keyData, word_inside]
    apply inside_bind
    rintro ⟨processId, rest⟩
    dsimp only
    rw [word_inside]
    exact inside_bind fun _ => rfl
  split
  · rw [parameter, text_inside]
    apply inside_bind
    rintro ⟨name, rest⟩
    dsimp only
    rw [text_inside]
    exact inside_bind fun _ => rfl
  split
  · rfl
  split
  · rfl
  split
  · cases body <;> rfl
  · rfl

def intake (buffer : List UInt8) : Option Intake :=
  if buffer.length < 5 then some .starved
  else do
    let tag ← byte buffer 0
    let length := (signedWord (← byte buffer 1) (← byte buffer 2) (← byte buffer 3)
      (← byte buffer 4)).toInt
    if length < 4 ∨ (maxLength : Int) < length then return .misframed (.badLength length tag)
    else if buffer.length < 1 + length.toNat then return .starved
    else
      let (frame, rest) ← cut buffer (1 + length.toNat)
      let body ← skip frame 5
      return .taken (← (reply tag body).run) rest

/-- Looking for a message never leaves the buffer, whatever its bytes are. -/
theorem intake_inside (buffer : List UInt8) : intake buffer = some (Wire.intake buffer) := by
  match buffer with
  | [] | [_] | [_, _] | [_, _, _] | [_, _, _, _] => rfl
  | tag :: a :: b :: c :: d :: rest =>
    unfold intake Wire.intake
    rw [if_neg (by simp)]
    change (if (signedWord a b c d).toInt < 4 ∨ (maxLength : Int) < (signedWord a b c d).toInt
      then _ else _) = _
    dsimp only
    generalize (signedWord a b c d).toInt = length
    split
    · rfl
    · rename_i framed
      have least : 4 ≤ length := Int.not_lt.mp fun h => framed (.inl h)
      by_cases short : rest.length < length.toNat - 4
      · rw [if_pos short, if_pos (by simp only [List.length_cons]; omega)]
        rfl
      · obtain ⟨body, more, rfl, size⟩ :
            ∃ body more, rest = body ++ more ∧ body.length = length.toNat - 4 :=
          ⟨_, _, (List.take_append_drop (length.toNat - 4) rest).symm,
            List.length_take_of_le (Nat.not_lt.mp short)⟩
        have whole : cut (tag :: a :: b :: c :: d :: (body ++ more)) (1 + length.toNat) =
            some ([tag, a, b, c, d] ++ body, more) := by
          have count : ([tag, a, b, c, d] ++ body).length = 1 + length.toNat := by
            simp only [List.length_append, List.length_cons, List.length_nil, size]
            omega
          rw [← count]
          exact cut_append ([tag, a, b, c, d] ++ body) more
        have inner : skip ([tag, a, b, c, d] ++ body) 5 = some body :=
          skip_append [tag, a, b, c, d] body
        rw [if_neg short, if_neg (by simp only [List.length_cons]; omega), whole,
          List.take_left' size, List.drop_left' size]
        change (skip ([tag, a, b, c, d] ++ body) 5 >>= fun body => _) = _
        rw [inner]
        change ((reply tag body).run >>= fun outcome => _) = _
        rw [reply_inside]
        rfl

end Passage.Wire.Checked
