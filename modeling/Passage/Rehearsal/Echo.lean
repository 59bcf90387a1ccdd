import Passage.Rehearsal.Dialogue

namespace Passage.Rehearsal

abbrev Message := List UInt8

def messageSize : Nat := 32768

def messagesOf (data : List UInt8) : List Message :=
  if _h : data.isEmpty then []
  else data.take messageSize :: messagesOf (data.drop messageSize)
termination_by data.length
decreasing_by
  have : 0 < data.length := by cases data <;> simp_all
  simp [messageSize]
  omega

def queueSize : Nat := 10

def inboxSize : Nat := 100

/-- What a stream was given to write and nobody has read back yet. -/
structure Echo where
  begun : List UInt8 := []
  arrived : List Message := []
  /-- Messages that came back and found no room before the reader. The session waits with them. -/
  held : List Message := []
  underway : List Message := []
  /-- The message of a write that was given up. It stays the first in line. -/
  stuck : Option Message := none
  ended : Bool := false

namespace Echo

def deliver (e : Echo) : Echo :=
  let room := inboxSize - e.arrived.length
  { e with arrived := e.arrived ++ e.held.take room, held := e.held.drop room }

def settle (e : Echo) : Echo :=
  let e := e.deliver
  if e.held.isEmpty then deliver { e with held := e.underway, underway := [] } else e

/-- After some time on a hop that was stopped. A session ends as soon as it looks up, and with it goes all that
is on its way. One that waits for room looks up when it has laid down the first message. -/
def cutOff (e : Echo) : Echo :=
  if e.ended then e
  else if e.held.isEmpty ∨ e.arrived.length < inboxSize then
    { begun := e.begun, arrived := e.arrived ++ e.held.take 1, ended := true }
  else e

def pass (stopped : Bool) (e : Echo) : Echo :=
  if stopped then e.cutOff else e.settle

/-- How many messages can be on their way. A stop takes one of the places for its farewell. -/
def places (stopped : Bool) : Nat := if stopped then queueSize - 1 else queueSize

def send? (stopped : Bool) (message : Message) (e : Echo) : Option Echo :=
  if e.underway.length < places stopped then
    some { e with underway := e.underway ++ [message], stuck := none }
  else none

/-- The messages that a write sends. If an earlier write was given up, its message goes first, and counts as the
first bytes of this one. -/
def outgoing (e : Echo) (data : List UInt8) : List Message :=
  match e.stuck with
  | none => messagesOf data
  | some message => message :: messagesOf (data.drop message.length)

def take? (e : Echo) (max : Nat) : Option (List UInt8 × Echo) :=
  if e.begun.isEmpty then
    match e.arrived with
    | [] => none
    | message :: rest => some (message.take max, { e with begun := message.drop max, arrived := rest })
  else some (e.begun.take max, { e with begun := e.begun.drop max })

end Echo

def channelClosed : IoFault := ⟨.brokenPipe, some "channel closed"⟩

def hasEnded (connect : Nat) (echoes : List Echo) : Bool :=
  echoes[connect]?.any (·.ended)

def putMessage? (stopped : Bool) (connect : Nat) (message : Message) (echoes : List Echo) :
    Option (List Echo) := do
  let echo ← (← echoes[connect]?).send? stopped message
  return echoes.set connect echo

/-- Sends messages on one of the channels. Where there is no place for one the write waits, and meanwhile the
messages of all channels travel. -/
def sendMessages (stopped : Bool) (connect : Nat) (echoes : List Echo) :
    List Message → DeedResult × List Echo
  | [] => (.written, echoes)
  | message :: rest =>
    if hasEnded connect echoes then (.failed channelClosed, echoes)
    else
      match putMessage? stopped connect message echoes with
      | some echoes => sendMessages stopped connect echoes rest
      | none =>
        let echoes := echoes.map (Echo.pass stopped)
        if hasEnded connect echoes then (.failed channelClosed, echoes)
        else
          match putMessage? stopped connect message echoes with
          | some echoes => sendMessages stopped connect echoes rest
          | none => (.pending, echoes.modify connect ({ · with stuck := some message }))

def readMessage? (connect max : Nat) (echoes : List Echo) : Option (DeedResult × List Echo) := do
  let (data, echo) ← (← echoes[connect]?).take? max
  return (.bytes data, echoes.set connect echo)

/-- One deed on one of the channels. A read without anything to take waits, and meanwhile the messages of all
channels travel. What arrived before the session ended can still be read. -/
def onEcho (stopped : Bool) (connect : Nat) (echoes : List Echo) : Deed → DeedResult × List Echo
  | .write data =>
    if data.isEmpty then (.written, echoes)
    else sendMessages stopped connect echoes ((echoes[connect]?.map (·.outgoing data)).getD [])
  | .read max =>
    match readMessage? connect max echoes with
    | some outcome => outcome
    | none =>
      if hasEnded connect echoes then (.bytes [], echoes)
      else
        let echoes := echoes.map (Echo.pass stopped)
        match readMessage? connect max echoes with
        | some outcome => outcome
        | none => (if hasEnded connect echoes then .bytes [] else .pending, echoes)

end Passage.Rehearsal
