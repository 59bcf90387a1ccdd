import Passage.Fault

namespace Passage

def Dialect.read (text : String) : Except Fault Dialect :=
  match Dialect.ofLowerName? text.toLower with
  | some d => .ok d
  | none => .error (.configuration (.unsupportedDialect text.toLower))

/-- The port as given, or else the dialect's usual one. -/
def Dialect.resolvePort (d : Dialect) (port : Option UInt16) : Except Fault UInt16 :=
  match port.or d.defaultPort with
  | some p => .ok p
  | none => .error (.configuration (.portMissing d))

def SslMode.read (text : String) : Except Fault SslMode :=
  match SslMode.ofName? text with
  | some mode => .ok mode
  | none => .error (.configuration (.invalidSslMode text))

end Passage
