import Passage.Json
import Passage.Json.Document

namespace Passage

namespace Json

def insertMember (name : String) (value : Json) : List (String × Json) → List (String × Json)
  | [] => [(name, value)]
  | (key, old) :: rest =>
    if name < key then (name, value) :: (key, old) :: rest
    else if name = key then (name, value) :: rest
    else (key, old) :: insertMember name value rest

mutual

def ofDocument? : Document → Option Json
  | .null => some .null
  | .bool b => some (.bool b)
  | .number literal => (Number.ofLiteral? literal).map .number
  | .string literal => (literalText? literal).map fun cs => .string (String.ofList cs)
  | .array items => (ofItems? items).map .array
  | .object members => (ofMembers? members []).map .object

def ofItems? : List Document → Option (List Json)
  | [] => some []
  | item :: items => do
    let value ← ofDocument? item
    let values ← ofItems? items
    return value :: values

/-- Reads members one after another; the last value under a name stays. -/
def ofMembers? : List (List Char × Document) → List (String × Json) → Option (List (String × Json))
  | [], known => some known
  | (key, member) :: members, known => do
    let name ← literalText? key
    let value ← ofDocument? member
    ofMembers? members (insertMember (String.ofList name) value known)

end

end Json
end Passage
