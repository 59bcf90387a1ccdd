import Passage.Negotiation.Request
import Passage.Report.Log
import Passage.Report.Metric

namespace Passage.Negotiation

/-- One thing done. `κ` is what a connection is to the driver. -/
inductive Act (κ : Type) where
  | listened (port : UInt16)
  /-- The failure that the entry had on record was thrown away. -/
  | cleared
  | attempted (request : DriverRequest)
  /-- An attempt ended, with a connection or with the failure that is reported for it. -/
  | answered (request : DriverRequest) (result : Except Fault κ)
  /-- The sessions of the entry were told to end. -/
  | dropped
  /-- The failure that the entry had on record was taken. -/
  | took (fault : Option Fault)
  | closed (connection : κ)
  | logged (entry : Report.Entry)
  | counted (metric : Report.Metric)
  | stopped

abbrev Journal (κ : Type) := List (Act κ)

namespace Journal

variable {κ : Type}

/-- The requests made of the driver. -/
def attempts (j : Journal κ) : List DriverRequest :=
  j.filterMap fun
    | .attempted request => some request
    | _ => none

/-- The connections given back to the driver. -/
def closings (j : Journal κ) : List κ :=
  j.filterMap fun
    | .closed connection => some connection
    | _ => none

def answers (j : Journal κ) : List (DriverRequest × Except Fault κ) :=
  j.filterMap fun
    | .answered request result => some (request, result)
    | _ => none

def openings (j : Journal κ) : List κ :=
  j.answers.filterMap fun (_, result) => result.toOption

def entries (j : Journal κ) : List Report.Entry :=
  j.filterMap fun
    | .logged entry => some entry
    | _ => none

def metrics (j : Journal κ) : List Report.Metric :=
  j.filterMap fun
    | .counted metric => some metric
    | _ => none

section

variable (a b : Journal κ)

@[simp]
theorem attempts_append : attempts (a ++ b) = a.attempts ++ b.attempts :=
  List.filterMap_append

@[simp]
theorem answers_append : answers (a ++ b) = a.answers ++ b.answers :=
  List.filterMap_append

end

end Journal
end Passage.Negotiation
