import Passage.Hop.Ssh
import Passage.Rehearsal.Echo

namespace Passage.Rehearsal

open Ssh (Hop)

structure SshServer where
  user : String
  forwards : List String
  stalls : Option String := none

/-- The one private key that can be read and that the server knows. -/
def knownKey : String := "test"

inductive Reception where
  | noKey
  | silence
  | stall
  | rejects
  | admits
  deriving DecidableEq

def receive (server : Option SshServer) (host : JumpHost) : Reception :=
  if host.privateKey ≠ knownKey then .noKey
  else
    match server with
    | none => .silence
    | some s =>
      if s.stalls = some host.username then .stall
      else if s.user = host.username then .admits
      else .rejects

/-- A session asks for a sign of life every 30 seconds. Three of them may go without an answer; the one after
the fourth is too many. -/
def patience : Nat := 150000

/-- Whether a stop comes before the login has ended. An answer takes no time, but it does not come before a stop
that is due at once. -/
def Reception.isOutrun (stopAfter : Option Nat) (reception : Reception) : Bool :=
  stopAfter.any fun limit =>
    match reception with
    | .noKey => false
    | .silence => true
    | .stall => limit < patience
    | .rejects | .admits => limit = 0

def loginSteps (call : Nat) (next : Endpoint) (stopAfter : Option Nat) (reception : Reception) :
    List Ssh.Step :=
  [.call next, .look call] ++
    if reception.isOutrun stopAfter then [.wait call, .raise, .sweep true, .look call]
    else
      match reception with
      | .noKey => [.fail call .invalidKey]
      | .silence => [.wait call]
      | .stall | .rejects => [.fail call .rejected]
      | .admits => [.succeed call, .register call, .check call]

def channelStep (server : Option SshServer) (call : Nat) (next : Endpoint) : Ssh.Step :=
  if server.any fun s => next.host ∈ s.forwards then .succeed call else .fail call Ssh.prohibited

inductive SshStep where
  | connect (next : Endpoint) (stopAfter : Option Nat) (deeds : List Deed)
  | stop
  | use (connect : Nat) (deeds : List Deed)

structure SshScene where
  hop : Hop
  echoes : List Echo := []
  requests : List Endpoint := []

structure SshView where
  result : Option (Except Fault Unit) := none
  deeds : List DeedResult := []
  hop : Hop

def useStream (scene : SshScene) (connect : Nat) (deeds : List Deed) : List DeedResult × SshScene :=
  match scene.hop.result? connect with
  | some (.ok ()) =>
    let (results, echoes) := perform (onEcho scene.hop.state.stopped connect) scene.echoes deeds
    (results, { scene with echoes })
  | _ => ([], scene)

/-- The echoes after a connect. Time passes if it gets to talk to the server, or is stopped before. -/
def echoesAfter (scene : SshScene) (stopAfter : Option Nat) (reception : Reception) : List Echo :=
  let echoes :=
    if scene.hop.state.stopped ∨ reception = .noKey then scene.echoes
    else scene.echoes.map (Echo.pass (reception.isOutrun stopAfter))
  echoes ++ [({} : Echo)]

def playSshStep (server : Option SshServer) (scene : SshScene) : SshStep → SshView × SshScene
  | .connect next stopAfter deeds =>
    let call := scene.hop.calls.length
    let reception := receive server scene.hop.host
    let hop := scene.hop.run (loginSteps call next stopAfter reception)
    let asked := hop.wantsChannel call
    let hop := if asked then hop.step (channelStep server call next) else hop
    let scene :=
      { hop
        echoes := echoesAfter scene stopAfter reception
        requests := if asked then scene.requests ++ [next] else scene.requests }
    let (results, scene) := useStream scene call deeds
    ({ result := hop.result? call, deeds := results, hop }, scene)
  | .stop =>
    let hop := scene.hop.stop
    ({ hop }, { scene with hop, echoes := scene.echoes.map Echo.cutOff })
  | .use connect deeds =>
    let (results, scene) := useStream scene connect deeds
    ({ deeds := results, hop := scene.hop }, scene)

def playSsh (server : Option SshServer) (scene : SshScene) :
    List SshStep → List SshView × SshScene
  | [] => ([], scene)
  | s :: steps =>
    let (view, scene) := playSshStep server scene s
    let (views, scene) := playSsh server scene steps
    (view :: views, scene)

def requestText (e : Endpoint) : String :=
  e.host ++ " " ++ toString e.port.toNat ++ " from 127.0.0.1 0"

end Passage.Rehearsal
