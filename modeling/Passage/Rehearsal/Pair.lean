import Passage.Flow.Pipe

namespace Passage.Rehearsal

open Passage.Flow

inductive Wrapping where
  | tracked
  | cancellable
  deriving DecidableEq

inductive Side where
  | own
  | peer
  deriving DecidableEq

inductive PairStep where
  | operate (side : Side) (op : Operation)
  | drop (side : Side)
  | cancel

/-- The pair as its own end sees it, and which ends are still there. -/
structure Pair where
  wrappings : List Wrapping
  ends : Guarded Duplex
  ownGone : Bool := false
  peerGone : Bool := false

inductive PairResult where
  | nothing
  | gone
  | answered (answer : Answer)

namespace Pair

def sockets (p : Pair) : Nat :=
  if p.ownGone then 0 else p.wrappings.count .tracked

def task : TaskId := 0

def own (p : Pair) (op : Operation) : Answer × Pair :=
  let (answer, ends) := Guarded.device Duplex.device task p.ends op
  (answer, { p with ends })

def peer (p : Pair) (op : Operation) : Answer × Pair :=
  let (answer, flipped) := Duplex.device task p.ends.inner.flip op
  (answer, { p with ends := { p.ends with inner := flipped.flip } })

def step (p : Pair) : PairStep → PairResult × Pair
  | .operate .own op =>
    if p.ownGone then (.gone, p)
    else
      let (answer, p) := p.own op
      (.answered answer, p)
  | .operate .peer op =>
    if p.peerGone then (.gone, p)
    else
      let (answer, p) := p.peer op
      (.answered answer, p)
  | .drop side =>
    let p := { p with ends := { p.ends with inner := p.ends.inner.abandon } }
    match side with
    | .own => (.nothing, { p with ownGone := true })
    | .peer => (.nothing, { p with peerGone := true })
  | .cancel =>
    if .cancellable ∈ p.wrappings then (.nothing, { p with ends := p.ends.cancel.2 })
    else (.nothing, p)

def run (p : Pair) : List PairStep → List (PairResult × Nat)
  | [] => []
  | s :: steps =>
    let (result, p) := p.step s
    (result, p.sockets) :: p.run steps

end Pair
end Passage.Rehearsal
