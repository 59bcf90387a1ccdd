import Passage.Dialect
import Passage.Net.IoFault

namespace Passage

/-- Why a request cannot be carried out as it was put. -/
inductive Misconfiguration where
  | unsupportedDialect (name : String)
  | dialectMissing
  | hostMissing
  | portMissing (dialect : Dialect)
  | invalidSslMode (text : String)
  | zeroTimeout
  | proxyHostMissing
  | proxyPortMissing
  | proxyUserMissing
  | sshHostMissing
  | sshUserMissing
  | sshKeyMissing
  | noModesLeft
  | noHops
  | foreignDialect (dialect : Dialect)
  | invalidHostName (trimmed : String)
  | invalidServerName (given : String)
  | caUnreadable (path : String) (fault : IoFault)
  | caMalformed (path : String)
  | caEmpty (path : String)
  | other (message : String)
  deriving DecidableEq

def Misconfiguration.text : Misconfiguration → String
  | .unsupportedDialect name => "unsupported dialect: " ++ name
  | .dialectMissing => "dialect is required"
  | .hostMissing => "host is required"
  | .portMissing d =>
    "port is required for dialect " ++ d.name ++ ", which has no default port"
  | .invalidSslMode text =>
    "invalid sslmode '" ++ text ++
      "': expected manual, disabled, required, verify, or preferred"
  | .zeroTimeout => "connect timeout must be greater than zero"
  | .proxyHostMissing => "proxy host is required"
  | .proxyPortMissing => "proxy port is required"
  | .proxyUserMissing => "proxy password given without a user id"
  | .sshHostMissing => "ssh host is required"
  | .sshUserMissing => "ssh username is required"
  | .sshKeyMissing => "ssh private key is required"
  | .noModesLeft => "no ssl modes left to probe"
  | .noHops => "tunnel chain has no hops"
  | .foreignDialect d => "PostgresDriver cannot connect to dialect " ++ d.name
  | .invalidHostName trimmed => "Invalid hostname for TLS: '" ++ trimmed ++ "'"
  | .invalidServerName given => "Invalid hostname for TLS: " ++ given
  | .caUnreadable path fault =>
    "Failed to read CA certificate file '" ++ path ++ "': " ++ fault.text
  | .caMalformed path => "Failed to parse CA certificate from '" ++ path ++ "'"
  | .caEmpty path => "No valid certificates found in '" ++ path ++ "'"
  | .other message => message

inductive Layer where
  | configuration
  | proxy
  | ssh
  | database
  deriving DecidableEq

def Layer.name : Layer → String
  | .configuration => "configuration"
  | .proxy => "proxy"
  | .ssh => "ssh"
  | .database => "database"

/-- One failed request. The first five name the target by its sanitized URI, once it is known. -/
inductive Fault where
  /-- The database, or the driver for it, refused or failed the connection. -/
  | databaseConnect (message uri : String)
  /-- The proxy itself cannot be reached or used. -/
  | proxyConnect (proxy message uri : String)
  /-- The proxy is fine but could not reach what lies behind it. -/
  | proxyForward (proxy message uri : String)
  | sshConnect (server message uri : String)
  /-- The SSH server refused the forwarded channel. -/
  | sshForward (server message uri : String)
  | configuration (cause : Misconfiguration)
  | authentication (reason : String)
  | protocol (reason : String)
  | tls (reason : String)
  | invalidState (expected actual : String)
  | connectionClosed
  | io (fault : IoFault)
  deriving DecidableEq

namespace Fault

def target (uri : String) : String :=
  if uri.isEmpty then "" else " (" ++ uri ++ ")"

def text : Fault → String
  | .databaseConnect message uri => message ++ target uri
  | .proxyConnect proxy message uri =>
    "could not connect to proxy " ++ proxy ++ ": " ++ message ++ target uri
  | .proxyForward proxy message uri =>
    "proxy " ++ proxy ++ " could not forward the connection: " ++ message ++ target uri
  | .sshConnect server message uri =>
    "could not connect to ssh server " ++ server ++ ": " ++ message ++ target uri
  | .sshForward server message uri =>
    "ssh server " ++ server ++ " could not forward the connection: " ++ message ++ target uri
  | .configuration cause => "configuration error: " ++ cause.text
  | .authentication reason => "authentication failed: " ++ reason
  | .protocol reason => "protocol error: " ++ reason
  | .tls reason => "TLS error: " ++ reason
  | .invalidState expected actual =>
    "invalid state: expected " ++ expected ++ ", got " ++ actual
  | .connectionClosed => "connection closed"
  | .io fault => "I/O error: " ++ fault.text

def layer : Fault → Layer
  | .configuration _ => .configuration
  | .proxyConnect .. | .proxyForward .. => .proxy
  | .sshConnect .. | .sshForward .. => .ssh
  | _ => .database

/-- Whether a hop failed. -/
def isTunnel (fault : Fault) : Bool :=
  fault.layer = .proxy || fault.layer = .ssh

def timeoutMessage : String := "connection timed out"

def timedOut (uri : String) : Fault := .databaseConnect timeoutMessage uri

def isTimeout : Fault → Bool
  | .databaseConnect message _ => message = timeoutMessage
  | _ => false

/-- The failure with another target; one that names no target stays as it is. -/
def withUri (uri : String) : Fault → Fault
  | .databaseConnect message _ => .databaseConnect message uri
  | .proxyConnect proxy message _ => .proxyConnect proxy message uri
  | .proxyForward proxy message _ => .proxyForward proxy message uri
  | .sshConnect server message _ => .sshConnect server message uri
  | .sshForward server message _ => .sshForward server message uri
  | fault => fault

/-- A driver's failure as callers see it: hops and configuration keep their blame, anything else is the
database's, with the failure's wording as the message. -/
def classify (uri : String) : Fault → Fault
  | .configuration cause => .configuration cause
  | .databaseConnect message _ => .databaseConnect message uri
  | .proxyConnect proxy message _ => .proxyConnect proxy message uri
  | .proxyForward proxy message _ => .proxyForward proxy message uri
  | .sshConnect server message _ => .sshConnect server message uri
  | .sshForward server message _ => .sshForward server message uri
  | fault => .databaseConnect fault.text uri

/-- The failure to report for an attempt: a failed hop explains the closed socket that the driver saw. -/
def rootCause (uri : String) (driver : Fault) (tunnel : Option Fault) : Fault :=
  match tunnel with
  | some fault => if fault.isTunnel then fault.withUri uri else driver.classify uri
  | none => driver.classify uri

end Fault
end Passage
