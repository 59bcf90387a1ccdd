import Passage.Text.Numeral

namespace Passage

inductive SslMode where
  /-- The caller's own TLS options go to the driver as they are. -/
  | manual
  | disabled
  /-- Encryption without a look at the server's certificate. -/
  | required
  | verify
  /-- Whichever concrete mode the server turns out to support. -/
  | preferred
  deriving DecidableEq

namespace SslMode

def all : List SslMode := [.manual, .disabled, .required, .verify, .preferred]

def default : SslMode := .preferred

/-- The order in which a server is asked: strongest first. -/
def probeOrder : List SslMode := [.verify, .required, .disabled]

def name : SslMode → String
  | .manual => "manual"
  | .disabled => "disabled"
  | .required => "required"
  | .verify => "verify"
  | .preferred => "preferred"

def debug : SslMode → String
  | .manual => "Manual"
  | .disabled => "Disabled"
  | .required => "Required"
  | .verify => "Verify"
  | .preferred => "Preferred"

def ofName? (text : String) : Option SslMode :=
  match text.toLower with
  | "manual" => some .manual
  | "disabled" | "disable" => some .disabled
  | "required" | "require" => some .required
  | "verify" | "verify-full" | "verify-ca" => some .verify
  | "preferred" | "prefer" => some .preferred
  | _ => none

/-- Whether the mode only says how to find a concrete one. -/
def isDirective (mode : SslMode) : Bool := mode = .preferred

def verifies (mode : SslMode) : Bool := mode = .verify

def usesTls (mode : SslMode) : Bool := mode = .required || mode = .verify

end SslMode
end Passage
