import Passage.Hop.State

namespace Passage

namespace Shared

/-- A tracked value that nobody dropped yet. -/
structure Value where
  number : Nat
  /-- The work that holds it, if it is held by work. -/
  holder : Option Nat
  deriving DecidableEq

def Value.isWith (v : Value) (run : Nat) : Bool :=
  v.holder = some run

inductive Status (α : Type) where
  | pending
  | returned (outcome : Except Fault α)
  | abandoned

structure Run (α : Type) where
  /-- What is returned if the hop is stopped. -/
  onStop : Fault
  status : Status α := .pending

/-- What work does when it is looked at. -/
structure Turn (α : Type) where
  tracks : Nat := 0
  /-- Which of the values that it holds it drops. -/
  drops : Nat → Bool := fun _ => false
  hands : Nat → Bool := fun _ => false
  /-- What it comes to, if it ends. -/
  progress : Option (Except Fault α) := none

/-- One look at work is one event: a stop that comes in its course counts as coming after it. -/
inductive Event (α : Type) where
  | record (fault : Fault)
  | stop
  | track
  | drop (number : Nat)
  /-- Work is begun, and may take values with it that no work holds. -/
  | start (onStop : Fault) (takes : Nat → Bool)
  | poll (run : Nat) (turn : Turn α)
  | abandon (run : Nat)

end Shared

structure Shared (α : Type) where
  state : HopState := {}
  sockets : Int := 0
  values : List Shared.Value := []
  /-- How many values were ever tracked. -/
  tracked : Nat := 0
  runs : List (Shared.Run α) := []

namespace Shared

variable {α : Type}

def track (s : Shared α) (holder : Option Nat) : Shared α :=
  { s with
    sockets := s.sockets + 1
    values := s.values ++ [⟨s.tracked, holder⟩]
    tracked := s.tracked + 1 }

def trackMany (s : Shared α) (holder : Option Nat) : Nat → Shared α
  | 0 => s
  | n + 1 => (s.trackMany holder n).track holder

def drop (s : Shared α) (v : Value) : Shared α :=
  { s with sockets := s.sockets - 1, values := s.values.erase v }

def release (s : Shared α) (p : Value → Bool) : Shared α :=
  (s.values.filter p).foldl drop s

def pass (s : Shared α) (p : Value → Bool) (holder : Option Nat) : Shared α :=
  { s with values := s.values.map fun v => if p v then { v with holder } else v }

def mark (s : Shared α) (run : Nat) (status : Status α) : Shared α :=
  { s with runs := s.runs.modify run fun r => { r with status } }

def isPending (s : Shared α) (run : Nat) : Bool :=
  match s.runs[run]? with
  | some { status := .pending, .. } => true
  | _ => false

def turn (s : Shared α) (run : Nat) (t : Turn α) : Shared α :=
  let s := s.trackMany (some run) t.tracks
  let s := s.release fun v => v.isWith run && t.drops v.number
  s.pass (fun v => v.isWith run && t.hands v.number) none

/-- Work returns. What it still holds goes to whom it returns to, or is dropped if there is only a failure. -/
def finish (s : Shared α) (run : Nat) (outcome : Except Fault α) : Shared α :=
  let s :=
    match outcome with
    | .ok _ => s.pass (·.isWith run) none
    | .error _ => s.release (·.isWith run)
  s.mark run (.returned outcome)

/-- One look at work. If the hop was stopped, the work itself has no turn any more. -/
def poll (s : Shared α) (run : Nat) (t : Turn α) : Shared α :=
  match s.runs[run]? with
  | some { onStop, status := .pending } =>
    let worked := if s.state.stopped then s else s.turn run t
    match s.state.poll onStop t.progress with
    | (_, none) => worked
    | (state, some outcome) => { worked with state }.finish run outcome
  | _ => s

/-- What an event makes of the hop. An event that does not fit changes nothing. -/
def step (s : Shared α) : Event α → Shared α
  | .record fault => { s with state := s.state.record fault }
  | .stop => { s with state := s.state.stop }
  | .track => s.track none
  | .drop number =>
    match s.values.find? fun v => v.number = number && v.holder = none with
    | some v => s.drop v
    | none => s
  | .start onStop takes =>
    let s := s.pass (fun v => v.holder = none && takes v.number) (some s.runs.length)
    { s with runs := s.runs ++ [{ onStop }] }
  | .poll run t => s.poll run t
  | .abandon run => if s.isPending run then (s.release (·.isWith run)).mark run .abandoned else s

def run (s : Shared α) (history : List (Event α)) : Shared α :=
  history.foldl step s

end Shared
end Passage
