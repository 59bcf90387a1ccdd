import Passage.Flow.Device

namespace Passage.Flow

structure Pipe where
  capacity : Nat
  held : List UInt8 := []
  /-- The writer is done, or one of the ends is gone. -/
  closed : Bool := false

def Pipe.close (p : Pipe) : Pipe :=
  { p with closed := true }

/-- Takes as many bytes as there is room for. Without any room the write waits, unless there is nothing to
take. -/
def Pipe.write (p : Pipe) (data : List UInt8) : Answer × Pipe :=
  let room := p.capacity - p.held.length
  if p.closed then (.failed ⟨.brokenPipe, none⟩, p)
  else if room = 0 ∧ ¬data.isEmpty then (.pending, p)
  else (.taken (min room data.length), { p with held := p.held ++ data.take room })

/-- Hands out at most `max` of the bytes held. A closed pipe is read to its end; a read of nothing never
waits. -/
def Pipe.read (p : Pipe) (max : Nat) : Answer × Pipe :=
  if p.held.isEmpty then (if p.closed ∨ max = 0 then .bytes [] else .pending, p)
  else (.bytes (p.held.take max), { p with held := p.held.drop max })

/-- Both directions, seen from one of the two ends. -/
structure Duplex where
  out : Pipe
  back : Pipe

namespace Duplex

def ofCapacity (capacity : Nat) : Duplex := ⟨⟨capacity, [], false⟩, ⟨capacity, [], false⟩⟩

def flip (d : Duplex) : Duplex := ⟨d.back, d.out⟩

def device : Device Duplex := fun _ d op =>
  match op with
  | .read max =>
    let (answer, back) := d.back.read max
    (answer, { d with back })
  | .write data =>
    let (answer, out) := d.out.write data
    (answer, { d with out })
  | .flush => (.flushed, d)
  | .shutdown => (.shut, { d with out := d.out.close })

def abandon (d : Duplex) : Duplex := ⟨d.out.close, d.back.close⟩

end Duplex
end Passage.Flow
