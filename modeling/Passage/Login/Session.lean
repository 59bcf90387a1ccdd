import Passage.Login.Exchange
import Passage.Wire.Intake

namespace Passage.Login

open Report (Metric)
open Wire (Packet)

structure Session where
  exchange : Exchange := {}
  /-- What was received and is not a whole message yet. -/
  buffer : List UInt8 := []
  /-- What was sent, the opening message included. -/
  sent : List Packet
  metrics : List Metric := []

namespace Session

def start (c : Credentials) : Session := { sent := [c.startup] }

def isOver (s : Session) : Bool := s.exchange.isOver

def sentBytes (s : Session) : List UInt8 := s.sent.flatMap Packet.encode

/-- Takes over what a message led to. -/
def take (s : Session) (r : Reaction) : Session :=
  { s with exchange := r.next, sent := s.sent ++ r.packets, metrics := s.metrics ++ r.metrics }

def fail (s : Session) (fault : Fault) : Session :=
  if s.isOver then s else s.take (s.exchange.fail fault)

/-- Reacts to whole messages until the login is over or there is none left in the buffer. -/
def settle (p : Scram.Primitives) (c : Credentials) (s : Session) : Session :=
  if s.isOver then s
  else
    match _h : Wire.intake s.buffer with
    | .starved => s
    | .misframed fault => s.fail (.protocol fault.text)
    | .taken (.error fault) rest => { s with buffer := rest }.fail (.protocol fault.text)
    | .taken (.ok reply) rest =>
      settle p c ({ s with buffer := rest }.take (s.exchange.receive p c reply))
termination_by s.buffer.length
decreasing_by exact Wire.length_lt_of_taken _h

section

variable {p : Scram.Primitives} {c : Credentials} {s : Session}

theorem settle_over (finished : s.isOver = true) : s.settle p c = s := by
  rw [settle, if_pos finished]

theorem settle_starved (h : ¬ s.isOver = true) (starved : Wire.intake s.buffer = .starved) :
    s.settle p c = s := by
  rw [settle, if_neg h]
  split <;> simp_all

theorem settle_misframed {fault : Wire.ReplyFault} (h : ¬ s.isOver = true)
    (misframed : Wire.intake s.buffer = .misframed fault) :
    s.settle p c = s.fail (.protocol fault.text) := by
  rw [settle, if_neg h]
  split <;> simp_all

theorem settle_unreadable {fault : Wire.ReplyFault} {rest : List UInt8} (h : ¬ s.isOver = true)
    (taken : Wire.intake s.buffer = .taken (.error fault) rest) :
    s.settle p c = { s with buffer := rest }.fail (.protocol fault.text) := by
  rw [settle, if_neg h]
  split <;> simp_all

theorem settle_reply {reply : Wire.Reply} {rest : List UInt8} (h : ¬ s.isOver = true)
    (taken : Wire.intake s.buffer = .taken (.ok reply) rest) :
    s.settle p c =
      ({ s with buffer := rest }.take (s.exchange.receive p c reply)).settle p c := by
  rw [settle, if_neg h]
  split <;> simp_all

end

def feed (p : Scram.Primitives) (c : Credentials) (s : Session) (data : List UInt8) : Session :=
  if s.isOver then s else settle p c { s with buffer := s.buffer ++ data }

end Session
end Passage.Login
