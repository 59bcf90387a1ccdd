import Passage.Target.Options
import Passage.Tls.Options

namespace Passage

structure DriverRequest where
  dialect : Dialect
  /-- Where to dial, which is the entry of the tunnel if there is one. -/
  host : String
  port : UInt16
  /-- The database's own host. -/
  serverName : String
  database : Option String
  user : Option String
  password : Option String
  sslMode : SslMode
  tls : TlsOptions
  timeout : Option Nat

def Resolved.request (r : Resolved) (mode : SslMode) (tls : TlsOptions) : DriverRequest where
  dialect := r.dialect
  host := r.host
  port := r.port
  serverName := r.serverName
  database := r.database
  user := r.user
  password := r.password
  sslMode := mode
  tls
  timeout := r.timeout

def DriverRequest.debug (r : DriverRequest) : String :=
  Quoted.record "DriverConfig"
    [("dialect", r.dialect.debug), ("host", Quoted.text r.host),
      ("port", toString r.port.toNat), ("server_name", Quoted.text r.serverName),
      ("database", Quoted.option Quoted.text r.database),
      ("user", Quoted.option Quoted.text r.user),
      ("password", Quoted.option Quoted.text (r.password.map fun _ => "***")),
      ("ssl_mode", r.sslMode.debug), ("tls", r.tls.debug),
      ("connect_timeout", Quoted.option Quoted.duration r.timeout)]

end Passage
