import Passage.Listener

namespace Passage

structure Token where
  /-- The tokens that it was made under, the nearest first. -/
  above : List Nat := []
  fired : Bool := false
  deriving DecidableEq

/-- All tokens there are, each known by its place. -/
abbrev Tokens := List Token

namespace Tokens

/-- One more token under the given one. It gets the next free place. -/
def child (ts : Tokens) (parent : Nat) : Tokens :=
  ts ++ [{ above := parent :: (ts[parent]?.map (·.above)).getD [] }]

def fire (ts : Tokens) (token : Nat) : Tokens :=
  ts.modify token fun t => { t with fired := true }

def isFired (ts : Tokens) (token : Nat) : Bool :=
  ts[token]?.any (·.fired)

/-- A token counts as cancelled if it was fired, or one that it was made under. -/
def isCancelled (ts : Tokens) (token : Nat) : Bool :=
  ts[token]?.any fun t => t.fired || t.above.any ts.isFired

end Tokens

namespace Listener

/-- The tokens of an entry. The first is the entry's own. -/
structure Keys where
  tokens : Tokens := Tokens.child [{}] 0
  /-- The token of the generation that is accepted now. -/
  current : Nat := 1
  given : List Nat := []
  stopped : Bool := false
  deriving DecidableEq

namespace Keys

/-- What an event makes of the tokens. Only the first stop fires the entry's own. -/
def step (k : Keys) : Event → Keys
  | .accept => { k with given := k.given ++ [k.current] }
  | .dropSessions =>
    { k with
      tokens := (k.tokens.fire k.current).child 0
      current := k.tokens.length }
  | .stop => if k.stopped then k else { k with tokens := k.tokens.fire 0, stopped := true }
  | _ => k

def run (k : Keys) (history : List Event) : Keys :=
  history.foldl step k

def isTold (k : Keys) (session : Nat) : Bool :=
  k.given[session]?.any k.tokens.isCancelled

end Keys
end Listener
end Passage
