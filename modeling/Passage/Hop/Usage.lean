import Passage.Hop.State

namespace Passage

/-- Work that holds tracked values while it runs. -/
structure Work where
  holds : Nat
  course : Course (Except Fault Unit)

structure Usage where
  state : HopState := {}
  sockets : Nat := 0
  /-- The tracked values that are held outside of any work, by number, the oldest first. -/
  values : List Nat := []
  tracked : Nat := 0

inductive UsageResult where
  | nothing
  | recorded (fault : Fault)
  | released (found : Bool)
  | ran (course : Course (Except Fault Unit))

inductive UsageStep where
  | record (fault : Fault)
  | stop
  | track
  | dropFirst
  | dropLast
  /-- Runs work; the hop is stopped at the given time if the work is still waiting then. -/
  | run (work : Work) (stopAfter : Option Nat)

namespace Usage

/-- The count while work is running. Work on a stopped hop does not begin. -/
def busy (u : Usage) (work : Work) : Nat :=
  if u.state.stopped then u.sockets else u.sockets + work.holds

def work (u : Usage) (onStop : Fault) (work : Work) (stopAfter : Option Nat) : UsageResult × Usage :=
  let (state, course) := u.state.run onStop stopAfter work.course
  let released := if u.state.stopped then 0 else work.holds
  let sockets :=
    match course with
    | .ends _ _ => u.busy work - released
    | .never => u.busy work
  (.ran course, { u with state, sockets })

def step (u : Usage) (onStop : Fault) : UsageStep → UsageResult × Usage
  | .record fault => (.recorded fault, { u with state := u.state.record fault })
  | .stop => (.nothing, { u with state := u.state.stop })
  | .track =>
    (.nothing,
      { u with
        sockets := u.sockets + 1
        values := u.values ++ [u.tracked]
        tracked := u.tracked + 1 })
  | .dropFirst =>
    match u.values with
    | _ :: rest => (.released true, { u with values := rest, sockets := u.sockets - 1 })
    | [] => (.released false, u)
  | .dropLast =>
    if u.values.isEmpty then (.released false, u)
    else (.released true, { u with values := u.values.dropLast, sockets := u.sockets - 1 })
  | .run w stopAfter => u.work onStop w stopAfter

def run (onStop : Fault) (u : Usage) : List UsageStep → List (UsageResult × Usage)
  | [] => []
  | s :: steps =>
    let (result, u) := u.step onStop s
    (result, u) :: run onStop u steps

end Usage
end Passage
