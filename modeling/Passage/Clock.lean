namespace Passage

/-- When a piece of work ends and what comes of it. -/
inductive Course (α : Type) where
  | ends (after : Nat) (outcome : α)
  | never

namespace Course

def map {α β : Type} (f : α → β) : Course α → Course β
  | ends after outcome => ends after (f outcome)
  | never => never

def outcome? {α : Type} : Course α → Option α
  | ends _ outcome => some outcome
  | never => none

def later {α : Type} (delay : Nat) : Course α → Course α
  | ends after outcome => ends (delay + after) outcome
  | never => never

@[simp]
theorem outcome?_map {α β : Type} (f : α → β) (c : Course α) :
    (c.map f).outcome? = c.outcome?.map f := by
  cases c <;> rfl

@[simp]
theorem outcome?_later {α : Type} (delay : Nat) (c : Course α) :
    (c.later delay).outcome? = c.outcome? := by
  cases c <;> rfl

def andThen {α β : Type} (first : Course α) (second : α → Course β) : Course β :=
  match first with
  | ends after outcome => (second outcome).later after
  | never => never

def endsBy {α : Type} (moment : Nat) : Course α → Bool
  | ends after _ => after ≤ moment
  | never => false

/-- Whether work is still waiting when the given moment comes. What is done at once never waits. -/
def waitsAt {α : Type} (moment : Nat) : Course α → Bool
  | ends after _ => 0 < after && moment ≤ after
  | never => true

def outlasts {α : Type} (moment : Nat) : Course α → Bool
  | ends after _ => moment < after
  | never => true

/-- Work with a limit. What ends at the very limit still counts. -/
def within {α : Type} (limit : Nat) (late : α) (work : Course α) : Course α :=
  if work.endsBy limit then work else ends limit late

end Course
end Passage
