import Passage.Fault
import Passage.Text.Quoted
import Passage.Tls.Options
import Passage.Tls.Pem

namespace Passage.Tls

inductive Roots where
  | unchecked
  | system
  | custom (certificates : List (List UInt8))

structure Settings where
  caPath : Option String
  acceptInvalid : Bool
  roots : Roots

/-- The files that can be read: why a file cannot be, or its sections, or nothing if it is malformed. -/
abbrev Files := String → Except IoFault (Option (List Pem.Section))

/-- The authorities in a file. A certificate that cannot be parsed counts as found, although it can
vouch for nobody. -/
def Roots.load (parsable : List UInt8 → Bool) (files : Files) (path : String) :
    Except Misconfiguration Roots :=
  match files path with
  | .error fault => .error (.caUnreadable path fault)
  | .ok none => .error (.caMalformed path)
  | .ok (some sections) =>
    let found := Pem.certificates sections
    if found.isEmpty then .error (.caEmpty path) else .ok (.custom (found.filter parsable))

namespace Settings

/-- Settings for a choice of authorities, which does not matter when any certificate is accepted. -/
def build (parsable : List UInt8 → Bool) (files : Files) (caPath : Option String)
    (acceptInvalid : Bool) : Except Misconfiguration Settings :=
  if acceptInvalid then .ok ⟨caPath, true, .unchecked⟩
  else
    match caPath with
    | none => .ok ⟨none, false, .system⟩
    | some path => (Roots.load parsable files path).map fun roots => ⟨some path, false, roots⟩

def debug (s : Settings) : String :=
  Quoted.record "TlsConfig"
    [("ca_cert_path", Quoted.option Quoted.text s.caPath),
      ("danger_accept_invalid_certs", toString s.acceptInvalid),
      ("client_config", Quoted.text "<ClientConfig>")]

end Settings

/-- What TLS options mean for a connection: no TLS, or whether any certificate is accepted and a file
of authorities of their own. -/
def request? (options : TlsOptions) : Option (Bool × Option String) :=
  match options with
  | .disabled => none
  | .ssl reject => some (!reject, none)
  | .encrypt on trust => if on then some (trust, none) else none
  | .manual value =>
    if options.usesTls then
      let reject := ((value.get? "rejectUnauthorized").bind Json.bool?).getD true
      some (!reject, (value.get? "caCertPath").bind Json.string?)
    else none

def settingsFor (parsable : List UInt8 → Bool) (files : Files) (ca : Option String)
    (options : TlsOptions) : Except Misconfiguration (Option Settings) :=
  match request? options with
  | none => .ok none
  | some (acceptInvalid, own) =>
    (Settings.build parsable files (own.or ca) acceptInvalid).map some

end Passage.Tls
