import Passage.Dialect
import Passage.Json

namespace Passage

inductive TlsOptions where
  | disabled
  | ssl (rejectUnauthorized : Bool)
  | encrypt (on trustServerCertificate : Bool)
  | manual (value : Json)

namespace TlsOptions

def usesTls : TlsOptions → Bool
  | .disabled => false
  | .ssl _ => true
  | .encrypt on _ => on
  | .manual .null => false
  | .manual (.bool false) => false
  | .manual _ => true

/-- The written form: the kind, and next to it the options if the kind has any. -/
def toJson : TlsOptions → Json
  | .disabled => .object [("kind", .string "disabled")]
  | .ssl reject =>
    .object [("kind", .string "ssl"),
      ("options", .object [("rejectUnauthorized", .bool reject)])]
  | .encrypt on trust =>
    .object [("kind", .string "encrypt"),
      ("options", .object [("encrypt", .bool on), ("trustServerCertificate", .bool trust)])]
  | .manual value => .object [("kind", .string "manual"), ("options", value)]

def debug : TlsOptions → String
  | .disabled => "Disabled"
  | .ssl reject => Quoted.record "Ssl" [("reject_unauthorized", toString reject)]
  | .encrypt on trust =>
    Quoted.record "Encrypt"
      [("encrypt", toString on), ("trust_server_certificate", toString trust)]
  | .manual value => Quoted.wrapped "Manual" value.debug

end TlsOptions

def Dialect.TlsStyle.options (style : Dialect.TlsStyle) (mode : SslMode) : TlsOptions :=
  match style with
  | .sslObject => if mode.usesTls then .ssl mode.verifies else .disabled
  | .encryptFlags => .encrypt mode.usesTls (!mode.verifies)

/-- The options a dialect has for a mode. A directive and the caller's own options have none, and
neither has a dialect that knows no TLS options. -/
def Dialect.tlsOptions? (d : Dialect) (mode : SslMode) : Option TlsOptions :=
  match mode with
  | .disabled | .required | .verify => d.tlsStyle.map (·.options mode)
  | .manual | .preferred => none

end Passage
