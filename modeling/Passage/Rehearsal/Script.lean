import Passage.Negotiation.Connect
import Passage.Rehearsal.Network

namespace Passage.Rehearsal

/-- What one attempt does: it may dial first, takes its time, and then fails or succeeds. -/
structure Play where
  dials : Bool := false
  delay : Nat := 0
  fault : Option Fault := none

structure Script where
  modes : List (SslMode × Play)
  /-- What the first attempts do, whatever their mode. -/
  calls : List Play := []
  closeFault : Option Fault := none

namespace Script

def play (s : Script) (number : Nat) (mode : SslMode) : Play :=
  (s.calls[number]?).getD (((s.modes.find? fun (m, _) => m = mode).map Prod.snd).getD {})

def course (network : Network) (number : Nat) (p : Play) : Course (Except Fault Nat) :=
  let result : Except Fault Nat :=
    match p.fault with
    | some fault => .error fault
    | none => .ok number
  match network.dial (.ok ()) with
  | .error fault => if p.dials then .ends 0 (.error (.io fault)) else .ends p.delay result
  | .ok () => .ends p.delay result

/-- The driver counts its attempts, and a connection is known by the number of its attempt. -/
def driver (network : Network) (s : Script) : Negotiation.Driver Nat Nat where
  attempt number r := (⟨course network number (s.play number r.sslMode), none⟩, number + 1)
  close number _ :=
    (match s.closeFault with
      | some fault => .error fault
      | none => .ok (),
      number)

end Script
end Passage.Rehearsal
