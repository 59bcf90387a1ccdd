import Passage.Clock
import Passage.Fault

namespace Passage

structure HopState where
  stopped : Bool := false
  firstFault : Option Fault := none
  deriving DecidableEq

namespace HopState

/-- Keeps the failure unless there was one before. -/
def record (s : HopState) (fault : Fault) : HopState :=
  { s with firstFault := s.firstFault.or (some fault) }

def stop (s : HopState) : HopState :=
  { s with stopped := true }

def settle {α : Type} (s : HopState) : Except Fault α → HopState
  | .ok _ => s
  | .error fault => s.record fault

/-- One look at a hop's work, which may have come to its outcome. A stop ends the work, even work that is
done at that very moment, and is no failure of the hop. -/
def poll {α : Type} (s : HopState) (onStop : Fault) (progress : Option (Except Fault α)) :
    HopState × Option (Except Fault α) :=
  if s.stopped then (s, some (.error onStop))
  else
    match progress with
    | some outcome => (s.settle outcome, some outcome)
    | none => (s, none)

/-- Drives work to its end. `stopAfter` is when the hop is stopped, should the work still be waiting. -/
def run {α : Type} (s : HopState) (onStop : Fault) (stopAfter : Option Nat)
    (work : Course (Except Fault α)) : HopState × Course (Except Fault α) :=
  if s.stopped then (s, .ends 0 (.error onStop))
  else
    match stopAfter.filter (work.waitsAt ·), work with
    | some moment, _ => (s.stop, .ends moment (.error onStop))
    | none, .ends after outcome => (s.settle outcome, .ends after outcome)
    | none, .never => (s, .never)

end HopState
end Passage
