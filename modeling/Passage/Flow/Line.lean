import Passage.Net.IoFault

namespace Passage.Flow

inductive Arrival where
  | bytes (data : List UInt8)
  | fault (f : IoFault)
  /-- Nothing arrives any more, and the stream stays open. -/
  | silence

structure Line where
  /-- What is still to arrive. The stream ends after the last piece. -/
  arrivals : List Arrival
  room : Option Nat := none
  /-- What a write beyond the limit fails with. -/
  onFull : IoFault := ⟨.writeZero, none⟩
  sent : List UInt8 := []

inductive Got where
  | bytes (data : List UInt8)
  | fault (f : IoFault)
  | silence

namespace Line

def cutShort : IoFault := ⟨.unexpectedEof, none⟩

/-- Reads at most `max` bytes, all from one piece; no bytes at the end of the stream. -/
def read (max : Nat) (line : Line) : Got × Line :=
  match line.arrivals with
  | [] => (.bytes [], line)
  | .silence :: _ => (.silence, line)
  | .fault f :: rest => (.fault f, { line with arrivals := rest })
  | .bytes data :: rest =>
    (.bytes (data.take max),
      { line with arrivals := if data.length ≤ max then rest else .bytes (data.drop max) :: rest })

/-- Takes exactly `count` bytes from what arrives. A piece without bytes is the end of the stream. -/
def takeExact (count : Nat) : List Arrival → Got × List Arrival
  | [] => (if count = 0 then .bytes [] else .fault cutShort, [])
  | arrival :: rest =>
    if count = 0 then (.bytes [], arrival :: rest)
    else
      match arrival with
      | .silence => (.silence, arrival :: rest)
      | .fault f => (.fault f, rest)
      | .bytes [] => (.fault cutShort, rest)
      | .bytes data =>
        if count < data.length then (.bytes (data.take count), .bytes (data.drop count) :: rest)
        else
          match takeExact (count - data.length) rest with
          | (.bytes more, rest) => (.bytes (data ++ more), rest)
          | unfinished => unfinished

def readExact (count : Nat) (line : Line) : Got × Line :=
  let (got, arrivals) := takeExact count line.arrivals
  (got, { line with arrivals })

/-- Writes as much as there is room for; the failure if that is not all. -/
def write (data : List UInt8) (line : Line) : Option IoFault × Line :=
  match line.room with
  | none => (none, { line with sent := line.sent ++ data })
  | some room =>
    (if data.length ≤ room then none else some line.onFull,
      { line with room := some (room - data.length), sent := line.sent ++ data.take room })

end Line
end Passage.Flow
