import Passage.Number
import Passage.Text.Quoted

namespace Passage

inductive Json where
  | null
  | bool (b : Bool)
  | number (n : Number)
  | string (s : String)
  | array (items : List Json)
  | object (members : List (String × Json))

namespace Json

def get? (name : String) : Json → Option Json
  | .object members => (members.find? fun (key, _) => key == name).map Prod.snd
  | _ => none

def bool? : Json → Option Bool
  | .bool b => some b
  | _ => none

def string? : Json → Option String
  | .string s => some s
  | _ => none

mutual

/-- The diagnostic text of a value names its kind in front of every nested value. -/
def debug : Json → String
  | .null => "Null"
  | .bool b => Quoted.wrapped "Bool" (toString b)
  | .number n => Quoted.wrapped "Number" n.text
  | .string s => Quoted.wrapped "String" (Quoted.text s)
  | .array items => "Array [" ++ Text.joinWith ", " (debugItems items) ++ "]"
  | .object members => "Object \x7b" ++ Text.joinWith ", " (debugMembers members) ++ "\x7d"

def debugItems : List Json → List String
  | [] => []
  | item :: items => item.debug :: debugItems items

def debugMembers : List (String × Json) → List String
  | [] => []
  | (key, value) :: members => (Quoted.text key ++ ": " ++ value.debug) :: debugMembers members

end

end Json
end Passage
