import Passage.Wire.Reply

namespace Passage.Wire

/-- Messages before the first query are small; a larger length is garbage. -/
def maxLength : Nat := 1048576

inductive Intake where
  | starved
  | misframed (fault : ReplyFault)
  /-- One whole message, which is taken whether its body can be read or not. -/
  | taken (reply : Except ReplyFault Reply) (rest : List UInt8)

/-- Looks for one whole message. The length counts itself and the body, not the tag. -/
def intake (buffer : List UInt8) : Intake :=
  match buffer with
  | tag :: a :: b :: c :: d :: rest =>
    let length := (signedWord a b c d).toInt
    if length < 4 ∨ (maxLength : Int) < length then .misframed (.badLength length tag)
    else
      let size := length.toNat - 4
      if rest.length < size then .starved
      else .taken (Reply.read tag (rest.take size)) (rest.drop size)
  | _ => .starved

theorem length_lt_of_taken {buffer rest : List UInt8} {reply : Except ReplyFault Reply}
    (h : intake buffer = .taken reply rest) : rest.length < buffer.length := by
  unfold intake at h
  split at h
  · dsimp only at h
    split at h
    · cases h
    · split at h
      · cases h
      · cases h
        simp only [List.length_drop, List.length_cons]
        omega
  · cases h

abbrev Outcome := Except ReplyFault Reply

/-- Takes messages until there is no whole one left or one cannot be read, and returns what remains. -/
def drain (buffer : List UInt8) : List Outcome × List UInt8 :=
  match _h : intake buffer with
  | .starved => ([], buffer)
  | .misframed fault => ([.error fault], buffer)
  | .taken (.error fault) rest => ([.error fault], rest)
  | .taken (.ok reply) rest =>
    let (replies, left) := drain rest
    (.ok reply :: replies, left)
termination_by buffer.length
decreasing_by exact length_lt_of_taken _h

/-- Appends each piece to what is left of the ones before and takes what messages there are. -/
def feed (buffer : List UInt8) : List (List UInt8) → List (List Outcome × Nat)
  | [] => []
  | piece :: pieces =>
    let (outcomes, left) := drain (buffer ++ piece)
    (outcomes, left.length) :: feed left pieces

end Passage.Wire
