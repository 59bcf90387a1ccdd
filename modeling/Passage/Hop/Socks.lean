import Passage.Hop.Plan
import Passage.Hop.State
import Passage.Net.IpLiteral
import Passage.Report.Metric
import Passage.Flow.Talk
import Passage.Text.Utf8

namespace Passage.Socks

open Passage.Flow

/-- Why a proxy did not serve a request that it understood. -/
inductive Denial where
  | generalFailure
  | notAllowed
  | networkUnreachable
  | hostUnreachable
  | refused
  | expired
  | commandUnsupported
  | addressTypeUnsupported
  | unknown
  deriving DecidableEq

inductive Failure where
  | userLength
  | passwordLength
  | overlongName
  | wrongVersion
  | reservedByte
  | noMethod
  | unknownMethod
  | loginWanted
  | loginFailed (code : UInt8)
  | denied (denial : Denial)
  | unknownAddressType
  | unreadableName
  | io (fault : IoFault)
  deriving DecidableEq

def Denial.text : Denial → String
  | .generalFailure => "General SOCKS server failure"
  | .notAllowed => "Connection not allowed by ruleset"
  | .networkUnreachable => "Network unreachable"
  | .hostUnreachable => "Host unreachable"
  | .refused => "Connection refused"
  | .expired => "TTL expired"
  | .commandUnsupported => "Command not supported"
  | .addressTypeUnsupported => "Address type not supported"
  | .unknown => "Unknown auth method"

def Failure.text : Failure → String
  | .userLength => "Invalid auth values: username length should between 1 to 255"
  | .passwordLength => "Invalid auth values: password length should between 1 to 255"
  | .overlongName => "Target address is invalid: overlong domain"
  | .wrongVersion => "Invalid response version"
  | .reservedByte => "Invalid reserved byte"
  | .noMethod => "No acceptable auth methods"
  | .unknownMethod => "Unknown auth method"
  | .loginWanted => "Authorization required"
  | .loginFailed code => "Password auth failure, code: " ++ toString code.toNat
  | .denied denial => denial.text
  | .unknownAddressType => "Unknown address type"
  | .unreadableName => "Target address is invalid: not a valid UTF-8 string"
  | .io fault => fault.text

def Denial.ofCode? (code : UInt8) : Option Denial :=
  match code.toNat with
  | 0 => none
  | 1 => some .generalFailure
  | 2 => some .notAllowed
  | 3 => some .networkUnreachable
  | 4 => some .hostUnreachable
  | 5 => some .refused
  | 6 => some .expired
  | 7 => some .commandUnsupported
  | 8 => some .addressTypeUnsupported
  | _ => some .unknown

/-- The proxy works, but what lies behind it could not be reached. -/
def Denial.isBeyond : Denial → Bool
  | .generalFailure | .notAllowed | .networkUnreachable | .hostUnreachable | .refused | .expired => true
  | .commandUnsupported | .addressTypeUnsupported | .unknown => false

/-- Whether a failure is blamed on what lies behind the proxy. A stream that closes during the handshake
counts as such. -/
def Failure.isBeyond : Failure → Bool
  | .denied denial => denial.isBeyond
  | .io fault => fault.isClosed
  | _ => false

def Failure.blame (proxy : Proxy) (next : Endpoint) (failure : Failure) : Fault :=
  if failure.isBeyond then
    .proxyForward proxy.address (failure.text ++ " (next hop " ++ next.text ++ ")") ""
  else .proxyConnect proxy.address failure.text ""

/-- The user and the password that the proxy is given; a missing password is an empty one. -/
abbrev Login := Option (List UInt8 × List UInt8)

def loginOf (proxy : Proxy) : Login :=
  proxy.userId.map fun user => (Text.bytes user, Text.bytes (proxy.password.getD ""))

def counted (data : List UInt8) : List UInt8 :=
  UInt8.ofNat data.length :: data

inductive Address where
  | ip4 (octets : List UInt8)
  | ip6 (octets : List UInt8)
  | name (data : List UInt8)

def Address.ofHost (host : String) : Address :=
  match ipLiteral? host with
  | some octets => if octets.length = 4 then .ip4 octets else .ip6 octets
  | none => .name (Text.bytes host)

def Address.encode : Address → List UInt8
  | .ip4 octets => 1 :: octets
  | .ip6 octets => 4 :: octets
  | .name data => 3 :: counted data

def portBytes (port : UInt16) : List UInt8 :=
  [UInt8.ofNat (port.toNat / 256), UInt8.ofNat port.toNat]

/-- What can be seen to be wrong before anything is sent. -/
def defect? (login : Login) (address : Address) : Option Failure :=
  let ofLogin := login.bind fun (user, password) =>
    if user.isEmpty ∨ 255 < user.length then some .userLength
    else if password.isEmpty ∨ 255 < password.length then some .passwordLength
    else none
  let ofAddress :=
    match address with
    | .name data => if 255 < data.length then some .overlongName else none
    | _ => none
  ofLogin.or ofAddress

def greeting (login : Login) : List UInt8 :=
  if login.isSome then [5, 2, 0, 2] else [5, 1, 0]

def passwordRequest (user password : List UInt8) : List UInt8 :=
  1 :: counted user ++ counted password

def connectRequest (address : Address) (port : UInt16) : List UInt8 :=
  [5, 1, 0] ++ address.encode ++ portBytes port

def logIn (user password : List UInt8) : Talk Failure Unit := do
  .write (passwordRequest user password)
  match ← .read 2 with
  | [version, status] =>
    if version ≠ 1 then .fail .wrongVersion
    else if status ≠ 0 then .fail (.loginFailed status)
    else pure ()
  | _ => .fail (.io Line.cutShort)

def authenticate (login : Login) : Talk Failure Unit := do
  .write (greeting login)
  match ← .read 2 with
  | [version, method] =>
    if version ≠ 5 then .fail .wrongVersion
    else if method = 0 then pure ()
    else if method = 2 then
      match login with
      | some (user, password) => logIn user password
      | none => .fail .loginWanted
    else if method = 0xFF then .fail .noMethod
    else .fail .unknownMethod
  | _ => .fail (.io Line.cutShort)

/-- Reads past the address that the proxy bound, which nobody needs. -/
def skipBound (addressType : UInt8) : Talk Failure Unit := do
  if addressType = 1 then
    let _ ← .read 6
    pure ()
  else if addressType = 4 then
    let _ ← .read 18
    pure ()
  else if addressType = 3 then
    match ← .read 1 with
    | [length] =>
      let rest ← .read (length.toNat + 2)
      if (Text.text? (rest.take length.toNat)).isNone then .fail .unreadableName else pure ()
    | _ => .fail (.io Line.cutShort)
  else .fail .unknownAddressType

def request (address : Address) (port : UInt16) : Talk Failure Unit := do
  .write (connectRequest address port)
  match ← .read 4 with
  | [version, code, reserved, addressType] =>
    if version ≠ 5 then .fail .wrongVersion
    else if reserved ≠ 0 then .fail .reservedByte
    else
      match Denial.ofCode? code with
      | some denial => .fail (.denied denial)
      | none => skipBound addressType
  | _ => .fail (.io Line.cutShort)

/-- The whole handshake towards the next endpoint. -/
def handshake (login : Login) (next : Endpoint) : Talk Failure Unit :=
  let address := Address.ofHost next.host
  match defect? login address with
  | some failure => .fail failure
  | none => do
    authenticate login
    request address next.port

def handshakeLimit : Nat := 4000

/-- Extends an open line through the proxy, in the time that a handshake may take. -/
def extend (proxy : Proxy) (next : Endpoint) (line : Line) : Course (Except Fault Unit) × Line :=
  let (result, line) := (handshake (loginOf proxy) next).run .io line
  let course : Course (Except Fault Unit) :=
    match result with
    | some result => .ends 0 (result.mapError (·.blame proxy next))
    | none => .never
  let late := Fault.proxyConnect proxy.address "SOCKS5 handshake timed out" ""
  (course.within handshakeLimit (.error late), line)

def connect (state : HopState) (proxy : Proxy) (next : Endpoint) (stopAfter : Option Nat)
    (line : Line) : HopState × Course (Except Fault Unit) × Line :=
  let (work, after) := extend proxy next line
  let (settled, course) := state.run (HopSettings.socks proxy).stoppedFault stopAfter work
  (settled, course, if state.stopped then line else after)

end Passage.Socks
