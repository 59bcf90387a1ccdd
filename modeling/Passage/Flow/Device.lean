import Passage.Net.IoFault

namespace Passage.Flow

inductive Operation where
  | read (max : Nat)
  | write (data : List UInt8)
  | flush
  | shutdown
  deriving DecidableEq

inductive Answer where
  /-- The bytes read; none at the end of the stream. -/
  | bytes (data : List UInt8)
  | taken (count : Nat)
  | flushed
  | shut
  | pending
  | failed (fault : IoFault)
  deriving DecidableEq

/-- Who polls, and is woken when it may be worth another poll. -/
abbrev TaskId := Nat

/-- A stream with the state `σ`. It may remember who polls it. -/
abbrev Device (σ : Type) := TaskId → σ → Operation → Answer × σ

namespace Device

inductive Event (σ : Type) where
  | poll (task : TaskId) (op : Operation)
  /-- Something comes to it from elsewhere: bytes arrive, or the other end is gone. -/
  | stir (change : σ → σ)

/-- One event after another: the operations that were polled with their answers, and what the stream has become. -/
def run {σ : Type} (device : Device σ) (s : σ) : List (Event σ) → List (Operation × Answer) × σ
  | [] => ([], s)
  | .stir change :: events => device.run (change s) events
  | .poll task op :: events =>
    let (answer, s) := device task s op
    let (answers, s) := device.run s events
    ((op, answer) :: answers, s)

variable {σ : Type} (device : Device σ) (s : σ) (events : List (Event σ))

@[simp]
theorem run_poll (task : TaskId) (op : Operation) :
    device.run s (.poll task op :: events) =
      ((op, (device task s op).1) :: (device.run (device task s op).2 events).1,
        (device.run (device task s op).2 events).2) := rfl

end Device

def tunnelStopped : IoFault := ⟨.connectionAborted, some "tunnel stopped"⟩

/-- A stream that can be cancelled. -/
structure Guarded (σ : Type) where
  inner : σ
  cancelled : Bool := false
  /-- Who is woken by the cancellation: the task that looked for it last. -/
  waiter : Option TaskId := none

namespace Guarded

variable {σ : Type}

/-- Every operation but a shutdown looks for the cancellation first. Until it comes, the task is to be woken
by it. -/
def look (g : Guarded σ) (task : TaskId) (op : Operation) : Guarded σ :=
  if op = .shutdown ∨ g.cancelled then g else { g with waiter := some task }

/-- Whether an operation finds the stream cancelled. -/
def refuses (g : Guarded σ) (op : Operation) : Bool :=
  op != .shutdown && g.cancelled

def pass (inner : Device σ) (task : TaskId) (g : Guarded σ) (op : Operation) : Answer × Guarded σ :=
  let (answer, s) := inner task g.inner op
  (answer, { g with inner := s })

/-- After the cancellation every operation fails without a look at the stream. Only a shutdown is still
passed on. -/
def device (inner : Device σ) : Device (Guarded σ) := fun task g op =>
  let g := g.look task op
  if g.refuses op then (.failed tunnelStopped, g) else g.pass inner task op

/-- Cancels the stream; tells who is woken by it. -/
def cancel (g : Guarded σ) : Option TaskId × Guarded σ :=
  (g.waiter, { g with cancelled := true, waiter := none })

/-- A poll in the course of which the stream is cancelled, between the look and what comes of it: the answer, and
who is woken. -/
def interrupted (inner : Device σ) (task : TaskId) (g : Guarded σ) (op : Operation) :
    Answer × Option TaskId × Guarded σ :=
  let g := g.look task op
  let refused := g.refuses op
  let (woken, g) := g.cancel
  if refused then (.failed tunnelStopped, woken, g)
  else
    let (answer, g) := g.pass inner task op
    (answer, woken, g)

end Guarded
end Passage.Flow
