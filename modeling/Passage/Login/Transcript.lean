import Passage.Login.Exchange

namespace Passage.Login

open Wire (AuthRequest Packet Reply)

inductive Spoken where
  | server (reply : Reply)
  | client (packet : Packet)

def Spoken.packets (lines : List Spoken) : List Packet :=
  lines.filterMap fun
    | .client packet => some packet
    | .server _ => none

/-- How a conversation goes on when the server sends these messages, and where it gets to. What the
server sends after the end is never read. -/
def Exchange.converse (p : Scram.Primitives) (c : Credentials) (e : Exchange) :
    List Reply → List Spoken × Exchange
  | [] => ([], e)
  | reply :: replies =>
    if e.isOver then ([], e)
    else
      let r := e.receive p c reply
      let (lines, last) := r.next.converse p c replies
      (.server reply :: (r.packets.map .client ++ lines), last)

/-- A whole login against a server that sends these messages. -/
def transcript (p : Scram.Primitives) (c : Credentials) (replies : List Reply) :
    List Spoken × Exchange :=
  let (lines, last) := ({} : Exchange).converse p c replies
  (.client c.startup :: lines, last)

/-- What a server that sends these messages asks for until it is ready. -/
def requests : List Reply → List AuthRequest
  | [] => []
  | .ready _ :: _ => []
  | .auth request :: replies => request :: requests replies
  | _ :: replies => requests replies

end Passage.Login
