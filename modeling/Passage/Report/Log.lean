namespace Passage.Report

inductive Level where
  | error
  | warn
  | info
  | debug
  | trace
  deriving DecidableEq

def Level.name : Level → String
  | .error => "ERROR"
  | .warn => "WARN"
  | .info => "INFO"
  | .debug => "DEBUG"
  | .trace => "TRACE"

def Level.all : List Level := [.error, .warn, .info, .debug, .trace]

def Level.ofName? (text : String) : Option Level :=
  Level.all.find? fun level => level.name = text

structure Entry where
  level : Level
  text : String
  deriving DecidableEq

/-- Where entries go: what is written down for each. -/
abbrev Sink := Entry → List Entry

def Sink.verbatim : Sink := fun entry => [entry]

def Sink.default : Sink := Sink.verbatim

end Passage.Report
