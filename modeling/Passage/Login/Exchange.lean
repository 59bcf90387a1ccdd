import Passage.Fault
import Passage.Report.Metric
import Passage.Scram.Client
import Passage.Wire.Packet
import Passage.Wire.Reply

namespace Passage.Login

open Report (Mechanism Metric)
open Wire (AuthRequest Notice Packet Reply)

structure Credentials where
  user : String
  database : String
  password : Option String
  applicationName : Option String
  nonce : String

def Credentials.startup (c : Credentials) : Packet :=
  .startup ([("user", c.user), ("database", c.database)] ++
    (c.applicationName.map fun name => ("application_name", name)).toList)

/-- What the next message of the server is taken for. -/
inductive Stage where
  /-- The server may ask for anything. `mechanism` is what it last asked for. -/
  | listening (mechanism : Option Mechanism)
  /-- The client's first SCRAM message was sent. -/
  | proving (client : Scram.Client)
  /-- The proof was sent, and the server has to prove itself. -/
  | verifying (verifier : Scram.Verifier)
  | ready
  | failed (fault : Fault)

structure Exchange where
  stage : Stage := .listening none
  processId : Option Int32 := none
  secretKey : Option Int32 := none
  /-- What the server reports about itself, the latest first. -/
  parameters : List (String × String) := []

/-- What a message of the server leads to. -/
structure Reaction where
  next : Exchange
  packets : List Packet := []
  metrics : List Metric := []

/-- An error of the server. Those of class 28 turn the login down. -/
def serverFault (n : Notice) : Fault :=
  if n.isAuthFailure then .authentication n.text else .databaseConnect n.text ""

def passwordMissing : Fault := .authentication "password required"

namespace Exchange

def isOver (e : Exchange) : Bool :=
  match e.stage with
  | .ready | .failed _ => true
  | _ => false

def parameter? (e : Exchange) (name : String) : Option String :=
  (e.parameters.find? fun (key, _) => key = name).map Prod.snd

def fail (e : Exchange) (fault : Fault) : Reaction :=
  { next := { e with stage := .failed fault } }

def answerCleartext (c : Credentials) (e : Exchange) : Reaction :=
  let metrics := [.authAttempted .cleartext]
  match c.password with
  | none => { e.fail passwordMissing with metrics }
  | some password =>
    { next := { e with stage := .listening (some .cleartext) }
      packets := [.password password]
      metrics }

def answerOffer (c : Credentials) (e : Exchange) (mechanisms : List String) : Reaction :=
  let metrics := [.authAttempted .scram]
  if Scram.mechanism ∉ mechanisms then
    { e.fail (.authentication ("server does not offer " ++ Scram.mechanism ++ ", available: " ++
        Text.joinWith ", " mechanisms)) with metrics }
  else
    match c.password with
    | none => { e.fail passwordMissing with metrics }
    | some password =>
      let client : Scram.Client := ⟨c.user, password, c.nonce⟩
      { next := { e with stage := .proving client }
        packets := [.saslInitial Scram.mechanism (Text.bytes client.first)]
        metrics }

/-- The server let the client in; this counts if it asked for anything before. -/
def accepted (e : Exchange) (mechanism : Option Mechanism) : Reaction :=
  { next := e
    metrics :=
      match mechanism with
      | some m => [.authSucceeded m, .authTimed m]
      | none => [] }

def listen (c : Credentials) (e : Exchange) (mechanism : Option Mechanism) : Reply → Reaction
  | .auth .ok => e.accepted mechanism
  | .auth .cleartext => e.answerCleartext c
  | .auth .md5 =>
    e.fail (.authentication "MD5 authentication not supported, use SCRAM-SHA-256 or cleartext")
  | .auth (.sasl mechanisms) => e.answerOffer c mechanisms
  | .auth (.saslContinue _) | .auth (.saslFinal _) =>
    e.fail (.protocol "SASL message outside of a SASL exchange")
  | .keyData processId secretKey =>
    { next := { e with processId := some processId, secretKey := some secretKey } }
  | .parameter name value => { next := { e with parameters := (name, value) :: e.parameters } }
  | .notice _ => { next := e }
  | .error n => e.fail (serverFault n)
  | .ready _ => { next := { e with stage := .ready } }

def prove (p : Scram.Primitives) (e : Exchange) (client : Scram.Client) : Reply → Reaction
  | .auth (.saslContinue data) =>
    match Text.text? data with
    | none => e.fail (.authentication "invalid UTF-8 in SCRAM server-first-message")
    | some serverFirst =>
      match client.final p serverFirst with
      | .error failure => e.fail (.authentication failure.text)
      | .ok (final, verifier) =>
        { next := { e with stage := .verifying verifier }
          packets := [.saslResponse (Text.bytes final)] }
  | .error n => e.fail (serverFault n)
  | other => e.fail (.protocol ("expected SASL continue, got " ++ other.debug))

def verify (p : Scram.Primitives) (e : Exchange) (verifier : Scram.Verifier) : Reply → Reaction
  | .auth (.saslFinal data) =>
    match Text.text? data with
    | none => e.fail (.authentication "invalid UTF-8 in SCRAM server-final-message")
    | some serverFinal =>
      match verifier.check p serverFinal with
      | .error failure => e.fail (.authentication failure.text)
      | .ok () => { next := { e with stage := .listening (some .scram) } }
  | .error n => e.fail (serverFault n)
  | other => e.fail (.protocol ("expected SASL final, got " ++ other.debug))

/-- The reaction to one message. After the end of the conversation there is none. -/
def receive (p : Scram.Primitives) (c : Credentials) (e : Exchange) (reply : Reply) : Reaction :=
  match e.stage with
  | .listening mechanism => e.listen c mechanism reply
  | .proving client => e.prove p client reply
  | .verifying verifier => e.verify p verifier reply
  | .ready | .failed _ => { next := e }

end Exchange
end Passage.Login
