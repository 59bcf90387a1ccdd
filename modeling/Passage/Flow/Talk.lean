import Passage.Flow.Line

namespace Passage.Flow

inductive Talk (ε α : Type) where
  | done (result : Except ε α)
  | send (data : List UInt8) (next : Talk ε α)
  | hear (count : Nat) (next : List UInt8 → Talk ε α)

namespace Talk

variable {ε α β : Type}

def bind : Talk ε α → (α → Talk ε β) → Talk ε β
  | done (.ok a), f => f a
  | done (.error e), _ => done (.error e)
  | send data next, f => send data (next.bind f)
  | hear count next, f => hear count fun data => (next data).bind f

instance : Monad (Talk ε) where
  pure a := done (.ok a)
  bind := Talk.bind

def fail (e : ε) : Talk ε α := done (.error e)

def write (data : List UInt8) : Talk ε Unit := send data (done (.ok ()))

def read (count : Nat) : Talk ε (List UInt8) := hear count fun data => done (.ok data)

/-- Holds the conversation on a line. There is no result if the other end falls silent. -/
def run (onFault : IoFault → ε) : Talk ε α → Line → Option (Except ε α) × Line
  | done result, line => (some result, line)
  | send data next, line =>
    match line.write data with
    | (none, line) => next.run onFault line
    | (some fault, line) => (some (.error (onFault fault)), line)
  | hear count next, line =>
    match line.readExact count with
    | (.bytes data, line) => (next data).run onFault line
    | (.fault fault, line) => (some (.error (onFault fault)), line)
    | (.silence, line) => (none, line)

end Talk
end Passage.Flow
