import Passage.Flow.Line

namespace Passage.Rehearsal

inductive Deed where
  | write (data : List UInt8)
  | read (max : Nat)

inductive DeedResult where
  | written
  | bytes (data : List UInt8)
  | pending
  | failed (fault : IoFault)

def onLine (line : Flow.Line) : Deed → DeedResult × Flow.Line
  | .write data =>
    match line.write data with
    | (none, line) => (.written, line)
    | (some fault, line) => (.failed fault, line)
  | .read max =>
    match line.read max with
    | (.bytes data, line) => (.bytes data, line)
    | (.fault fault, line) => (.failed fault, line)
    | (.silence, line) => (.pending, line)

/-- Deeds one after another, whatever becomes of each. -/
def perform {σ : Type} (act : σ → Deed → DeedResult × σ) (s : σ) : List Deed → List DeedResult × σ
  | [] => ([], s)
  | deed :: deeds =>
    let (result, s) := act s deed
    let (results, s) := perform act s deeds
    (result :: results, s)

end Passage.Rehearsal
