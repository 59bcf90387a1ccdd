import Passage.Flow.Talk

namespace Passage.Flow

/-- All the bytes that arrive, and what a read meets behind them: a failure, which the end of the stream is too,
or nothing at all. -/
def heard : List Arrival → List UInt8 × Option IoFault
  | [] => ([], some Line.cutShort)
  | .silence :: _ => ([], none)
  | .fault f :: _ => ([], some f)
  | .bytes [] :: _ => ([], some Line.cutShort)
  | .bytes (b :: data) :: rest => (b :: data ++ (heard rest).1, (heard rest).2)

/-- Where a read of so many bytes ends within what arrives, the next read goes on. -/
theorem takeExact_within {count : Nat} {arrivals : List Arrival} (enough : count ≤ (heard arrivals).1.length) :
    ∃ rest, Line.takeExact count arrivals = (.bytes ((heard arrivals).1.take count), rest) ∧
      heard rest = ((heard arrivals).1.drop count, (heard arrivals).2) := by
  induction arrivals generalizing count with
  | nil =>
    cases Nat.le_zero.mp enough
    exact ⟨[], rfl, rfl⟩
  | cons arrival rest ih =>
    unfold Line.takeExact
    rcases Nat.eq_zero_or_pos count with rfl | some_byte
    · exact ⟨arrival :: rest, if_pos rfl, rfl⟩
    rw [if_neg (Nat.ne_of_gt some_byte)]
    match arrival with
    | .silence | .fault f | .bytes [] => exact absurd enough (Nat.not_le.mpr some_byte)
    | .bytes (b :: data) =>
      rw [heard, List.length_append] at enough
      dsimp only [heard]
      -- either the piece serves all of the read, or the pieces behind it serve what is missing
      by_cases inside : count < (b :: data).length
      · refine ⟨.bytes ((b :: data).drop count) :: rest, ?_, ?_⟩
        · rw [if_pos inside, List.take_append_of_le_length (Nat.le_of_lt inside)]
        · obtain ⟨c, left, more⟩ := List.exists_cons_of_ne_nil
            (fun none_left => absurd (List.drop_eq_nil_iff.mp none_left) (Nat.not_le.mpr inside))
          rw [List.drop_append_of_le_length (Nat.le_of_lt inside), more, heard]
      · have through := Nat.le_of_not_lt inside
        obtain ⟨rest', took, left⟩ := @ih (count - (b :: data).length) (by omega)
        refine ⟨rest', ?_, ?_⟩
        · rw [if_neg inside, took, List.take_append, List.take_of_length_le through]
        · rw [left, List.drop_append, List.drop_eq_nil_of_le through, List.nil_append]

/-- A read that is not served by what arrives meets what is behind it. -/
theorem takeExact_beyond {count : Nat} {arrivals : List Arrival} (short : (heard arrivals).1.length < count) :
    (Line.takeExact count arrivals).1 =
      match (heard arrivals).2 with
      | some fault => .fault fault
      | none => .silence := by
  induction arrivals generalizing count with
  | nil => exact if_neg (Nat.ne_of_gt short)
  | cons arrival rest ih =>
    unfold Line.takeExact
    rw [if_neg (Nat.ne_zero_of_lt short)]
    match arrival with
    | .silence | .fault f | .bytes [] => rfl
    | .bytes (b :: data) =>
      rw [heard, List.length_append] at short
      have through : ¬ count < (b :: data).length := by omega
      have later := @ih (count - (b :: data).length) (by omega)
      dsimp only [heard]
      rw [if_neg through]
      rcases took : Line.takeExact (count - (b :: data).length) rest with ⟨got, left⟩
      rw [took] at later
      dsimp only at later ⊢
      rw [later]
      cases (heard rest).2 <;> rfl

/-- A stream without pieces. -/
structure Tape where
  bytes : List UInt8
  behind : Option IoFault
  room : Option Nat := none
  onFull : IoFault := ⟨.writeZero, none⟩
  sent : List UInt8 := []

def Line.tape (line : Line) : Tape :=
  ⟨(heard line.arrivals).1, (heard line.arrivals).2, line.room, line.onFull, line.sent⟩

namespace Tape

variable (s : Tape)

def takes (data : List UInt8) : Bool :=
  s.room.all (data.length ≤ ·)

/-- The stream after a write, of which as much is sent as there is room for. -/
def wrote (data : List UInt8) : Tape :=
  { s with room := s.room.map (· - data.length), sent := s.sent ++ data.take (s.room.getD data.length) }

/-- The stream when all of `data` was sent and `rest` is left to be read. -/
def after (data rest : List UInt8) : Tape :=
  { s with bytes := rest, room := s.room.map (· - data.length), sent := s.sent ++ data }

variable {s} {a b : List UInt8}

theorem wrote_of_takes (taken : s.takes a = true) : s.wrote a = s.after a s.bytes := by
  have all : a.take (s.room.getD a.length) = a := by
    apply List.take_of_length_le
    cases room : s.room with
    | none => exact Nat.le_refl _
    | some n => simpa [takes, room] using taken
  rw [wrote, after, all]

theorem takes_after (taken : s.takes a = true) (rest : List UInt8) :
    (s.after a rest).takes b = s.takes (a ++ b) := by
  cases room : s.room with
  | none => simp [takes, after, room]
  | some n =>
    have within : a.length ≤ n := by simpa [takes, room] using taken
    simp only [takes, after, room, Option.map_some, Option.all_some, List.length_append, decide_eq_decide]
    omega

theorem takes_of_append (taken : s.takes (a ++ b) = true) : s.takes a = true := by
  cases room : s.room with
  | none => simp [takes, room]
  | some n =>
    have within : a.length + b.length ≤ n := by simpa [takes, room] using taken
    simp only [takes, room, Option.all_some, decide_eq_true_eq]
    omega

theorem takes_append (taken : s.takes (a ++ b) = true) (rest : List UInt8) :
    s.takes a = true ∧ (s.after a rest).takes b = true := by
  have first := takes_of_append taken
  exact ⟨first, (takes_after first rest).trans taken⟩

theorem after_after (middle rest : List UInt8) :
    (s.after a middle).after b rest = s.after (a ++ b) rest := by
  cases room : s.room with
  | none => simp [after, room]
  | some n => simp [after, room, Nat.sub_sub]

end Tape

namespace Talk

variable {ε α β : Type} (onFault : IoFault → ε)

/-- Holds the conversation on a stream without pieces. -/
def hold : Talk ε α → Tape → Option (Except ε α) × Tape
  | done result, s => (some result, s)
  | send data next, s =>
    if s.takes data then next.hold (s.wrote data) else (some (.error (onFault s.onFull)), s.wrote data)
  | hear count next, s =>
    if count ≤ s.bytes.length then (next (s.bytes.take count)).hold { s with bytes := s.bytes.drop count }
    else (s.behind.map fun fault => .error (onFault fault), s)

theorem tape_write (line : Line) (data : List UInt8) :
    line.write data = (if line.tape.takes data then none else some line.onFull, (line.write data).2) ∧
      (line.write data).2.tape = line.tape.wrote data := by
  rw [Line.write]
  cases room : line.room with
  | none => simp [Line.tape, Tape.takes, Tape.wrote, room]
  | some n => simp [Line.tape, Tape.takes, Tape.wrote, room]

/-- A conversation comes to the same on a line and on its stream, and sends the same. -/
theorem run_eq_hold (talk : Talk ε α) (line : Line) :
    (talk.run onFault line).1 = (talk.hold onFault line.tape).1 ∧
      (talk.run onFault line).2.sent = (talk.hold onFault line.tape).2.sent := by
  induction talk generalizing line with
  | done result => exact ⟨rfl, rfl⟩
  | send data next ih =>
    obtain ⟨written, after⟩ := tape_write line data
    rw [run, hold, written]
    by_cases taken : line.tape.takes data = true
    · rw [if_pos taken, if_pos taken, ← after]
      exact ih (line.write data).2
    · rw [if_neg taken, if_neg taken, ← after]
      exact ⟨rfl, rfl⟩
  | hear count next ih =>
    rw [run, hold, Line.readExact]
    by_cases enough : count ≤ line.tape.bytes.length
    · obtain ⟨rest, took, left⟩ := takeExact_within enough
      -- the pieces that are left hold what is left of the bytes
      have onward : ({ line with arrivals := rest } : Line).tape =
          { line.tape with bytes := line.tape.bytes.drop count } := by
        rw [Line.tape, left]
        rfl
      rw [took, if_pos enough, ← onward]
      exact ih _ { line with arrivals := rest }
    · have met := takeExact_beyond (Nat.lt_of_not_le enough)
      rcases took : Line.takeExact count line.arrivals with ⟨got, rest⟩
      rw [took] at met
      rw [if_neg enough]
      dsimp only at met ⊢
      rw [met, Line.tape]
      cases (heard line.arrivals).2 <;> exact ⟨rfl, rfl⟩

variable {onFault} {s : Tape} {out data rest : List UInt8} {count : Nat}

theorem hold_bind (talk : Talk ε α) (f : α → Talk ε β) (s : Tape) :
    (talk >>= f).hold onFault s =
      match talk.hold onFault s with
      | (some (.ok a), s) => (f a).hold onFault s
      | (some (.error e), s) => (some (.error e), s)
      | (none, s) => (none, s) := by
  change (talk.bind f).hold onFault s = _
  induction talk generalizing s with
  | done result => cases result <;> rfl
  | send data next ih =>
    rw [bind, hold, hold]
    split
    · exact ih _
    · rfl
  | hear count next ih =>
    rw [bind, hold, hold]
    split
    · exact ih _ _
    · cases s.behind <;> rfl

theorem hold_bind_error {talk : Talk ε α} {e : ε} (failed : (talk.hold onFault s).1 = some (.error e))
    (f : α → Talk ε β) : ((talk >>= f).hold onFault s).1 = some (.error e) := by
  rw [hold_bind]
  rcases ended : talk.hold onFault s with ⟨result, left⟩
  rw [ended] at failed
  cases failed
  rfl

theorem hold_bind_behind {talk : Talk ε α} {behind : Option IoFault}
    (met : (talk.hold onFault s).1 = behind.map fun fault => .error (onFault fault)) (f : α → Talk ε β) :
    ((talk >>= f).hold onFault s).1 = behind.map fun fault => .error (onFault fault) := by
  cases behind with
  | some fault => exact hold_bind_error met f
  | none =>
    rw [hold_bind]
    rcases ended : talk.hold onFault s with ⟨result, left⟩
    rw [ended] at met
    cases met
    rfl

theorem sent_hold (talk : Talk ε α) (s : Tape) : ∃ more, (talk.hold onFault s).2.sent = s.sent ++ more := by
  induction talk generalizing s with
  | done result => exact ⟨[], (List.append_nil s.sent).symm⟩
  | send data next ih =>
    rw [hold]
    split
    · obtain ⟨more, sent⟩ := ih (s.wrote data)
      exact ⟨_, sent.trans (List.append_assoc _ _ more)⟩
    · exact ⟨_, rfl⟩
  | hear count next ih =>
    rw [hold]
    split
    · exact ih _ { s with bytes := s.bytes.drop count }
    · exact ⟨[], (List.append_nil s.sent).symm⟩

theorem sent_bind (talk : Talk ε α) (f : α → Talk ε β) (s : Tape) :
    ∃ more, ((talk >>= f).hold onFault s).2.sent = (talk.hold onFault s).2.sent ++ more := by
  rw [hold_bind]
  split
  · next ended =>
    rw [ended]
    exact sent_hold _ _
  · next ended => exact ⟨[], by rw [ended, List.append_nil]⟩
  · next ended => exact ⟨[], by rw [ended, List.append_nil]⟩

theorem hold_write (f : Unit → Talk ε β) (taken : s.takes out = true) :
    (write out >>= f).hold onFault s = (f ()).hold onFault (s.after out s.bytes) := by
  rw [hold_bind, write, hold, if_pos taken, Tape.wrote_of_takes taken]
  rfl

theorem sent_write (f : Unit → Talk ε β) (taken : s.takes out = true) :
    ∃ more, ((write out >>= f).hold onFault s).2.sent = s.sent ++ (out ++ more) := by
  obtain ⟨more, sent⟩ : ∃ more, ((f ()).hold onFault (s.after out s.bytes)).2.sent = s.sent ++ out ++ more :=
    sent_hold _ _
  rw [hold_write f taken, sent]
  exact ⟨more, List.append_assoc s.sent out more⟩

theorem hold_write_full (f : Unit → Talk ε β) (full : s.takes out = false) :
    ((write out >>= f).hold onFault s).1 = some (.error (onFault s.onFull)) := by
  rw [hold_bind, write, hold, if_neg (by simp [full])]

theorem hold_read (f : List UInt8 → Talk ε β) (whole : data.length = count) (arrived : s.bytes = data ++ rest) :
    (read count >>= f).hold onFault s = (f data).hold onFault { s with bytes := rest } := by
  have enough : count ≤ s.bytes.length := by
    rw [arrived, List.length_append, whole]
    exact Nat.le_add_right count rest.length
  rw [hold_bind, read, hold, if_pos enough, arrived, ← whole, List.take_left, List.drop_left]
  rfl

theorem hold_read_one {byte : UInt8} (f : List UInt8 → Talk ε β) (arrived : s.bytes = byte :: rest) :
    (read 1 >>= f).hold onFault s = (f [byte]).hold onFault { s with bytes := rest } := by
  have one : s.bytes = [byte] ++ rest := arrived
  exact hold_read f rfl one

theorem hold_read_short (f : List UInt8 → Talk ε β) (short : s.bytes.length < count) :
    ((read count >>= f).hold onFault s).1 = s.behind.map fun fault => .error (onFault fault) := by
  rw [hold_bind, read, hold, if_neg (Nat.not_le.mpr short)]
  cases s.behind <;> rfl

/-- Something is sent, and something is read in answer to it. -/
theorem hold_exchange (f : List UInt8 → Talk ε β) (taken : s.takes out = true) (whole : data.length = count)
    (arrived : s.bytes = data ++ rest) :
    (write out >>= fun _ => read count >>= f).hold onFault s = (f data).hold onFault (s.after out rest) := by
  rw [hold_write _ taken]
  exact hold_read f whole arrived

/-- The answers that are read byte by byte mostly have two of them. -/
theorem hold_exchange_two {first second : UInt8} (f : List UInt8 → Talk ε β) (taken : s.takes out = true)
    (arrived : s.bytes = first :: second :: rest) :
    (write out >>= fun _ => read 2 >>= f).hold onFault s = (f [first, second]).hold onFault (s.after out rest) := by
  have two : s.bytes = [first, second] ++ rest := arrived
  exact hold_exchange f taken rfl two

theorem hold_exchange_short (f : List UInt8 → Talk ε β) (taken : s.takes out = true)
    (short : s.bytes.length < count) :
    ((write out >>= fun _ => read count >>= f).hold onFault s).1 =
      s.behind.map fun fault => .error (onFault fault) := by
  rw [hold_write _ taken]
  exact hold_read_short f short

end Talk
end Passage.Flow
