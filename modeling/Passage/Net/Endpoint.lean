import Passage.Text.Quoted

namespace Passage

/-- A host with a colon in it is an IPv6 literal and is written in brackets. -/
def bracketed (host : String) : String :=
  if ':' ∈ host.toList then "[" ++ host ++ "]" else host

/-- The written form of an address whose port may be left open. -/
def authorityText (host : String) (port : Option UInt16) : String :=
  match port with
  | some p => bracketed host ++ ":" ++ toString p.toNat
  | none => bracketed host

structure Endpoint where
  host : String
  port : UInt16
  deriving DecidableEq

namespace Endpoint

def text (e : Endpoint) : String :=
  authorityText e.host (some e.port)

def debug (e : Endpoint) : String :=
  Quoted.record "Endpoint" [("host", Quoted.text e.host), ("port", toString e.port.toNat)]

end Endpoint
end Passage
