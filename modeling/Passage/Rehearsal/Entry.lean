import Passage.Listener
import Passage.Rehearsal.Network

namespace Passage.Rehearsal

inductive EntryStep where
  | client
  | dropSessions
  | stop
  | isStopped
  | takeFault
  | lastFault
  | sockets (count : Nat)

inductive EntryResult where
  | nothing
  | flag (b : Bool)
  | fault (f : Option Fault)

/-- One step, unless it needs a client: nobody gets through to the entry while the network is down. -/
def playEntryStep (l : Listener) : EntryStep → Option (EntryResult × Listener)
  | .client => none
  | .dropSessions => some (.nothing, l.step .dropSessions)
  | .stop => some (.nothing, l.step .stop)
  | .isStopped => some (.flag l.stopped, l)
  | .takeFault => some (.fault l.fault?, l.step .take)
  | .lastFault => some (.fault l.fault?, l)
  | .sockets count => some (.flag (count = 0), l)

def playEntry (l : Listener) : List EntryStep → Option (List EntryResult × Listener)
  | [] => some ([], l)
  | s :: steps => do
    let (result, l) ← playEntryStep l s
    let (results, l) ← playEntry l steps
    return (result :: results, l)

end Passage.Rehearsal
