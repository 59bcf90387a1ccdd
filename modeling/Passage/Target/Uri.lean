import Passage.Net.Endpoint
import Passage.Spelling
import Passage.Target.Sanitized

namespace Passage

/-- A URI `dialect://[user[:password]@]host[:port]/[database][?name=value&...]`, with its text in three parts, so that
another address can take the place of the middle one and nothing else moves. -/
structure TargetUri where
  /-- The scheme and the credentials, each with the mark that ends it. -/
  lead : String
  authority : String
  /-- The path and the query, each with the mark that begins it. -/
  tail : String
  dialect : Dialect
  user : Option String
  password : Option String
  host : String
  port : Option UInt16
  database : Option String
  query : String
  deriving DecidableEq

namespace TargetUri

def raw (uri : TargetUri) : String :=
  uri.lead ++ uri.authority ++ uri.tail

/-- The bytes of the text that the authority takes up: the first of them, and the one behind the last. -/
def span (uri : TargetUri) : Nat × Nat :=
  (uri.lead.utf8ByteSize, uri.lead.utf8ByteSize + uri.authority.utf8ByteSize)

def sanitized (uri : TargetUri) : String :=
  sanitize uri.raw

def debug (uri : TargetUri) : String :=
  Quoted.wrapped "ConnectionUri" (Quoted.text uri.sanitized)

def invalid (text dialect : String) : Fault :=
  .databaseConnect
    ("Connection Uri \"" ++ sanitize text ++ "\" provided for dialect " ++ dialect ++
      " is not valid. Should be " ++ dialect ++ "://<connection>.") ""

def presumedDialect (text : List Char) : String :=
  match text.takeWhile (· ≠ ':') with
  | [] => "<dialect>"
  | name => String.ofList name

/-- A port in a URI is written with at least one digit and is not zero. -/
def authorityPort? (text : List Char) : Option UInt16 :=
  (Text.port? text).filter (· ≠ 0)

/-- The host and the port of `host[:port]`; a host in brackets may hold colons. -/
def readAuthority (text : List Char) : Option (List Char × Option UInt16) :=
  match text with
  | '[' :: inner =>
    match Text.splitFirst ']' inner with
    | none => none
    | some ([], _) => none
    | some (host, []) => some (host, none)
    | some (host, ':' :: port) => (authorityPort? port).map fun p => (host, some p)
    | some _ => none
  | _ =>
    match Text.splitLast ':' text with
    | none => if text.isEmpty then none else some (text, none)
    | some ([], _) => none
    | some (host, port) => (authorityPort? port).map fun p => (host, some p)

def readCredentials (credentials : List Char) : List Char × Option (List Char) :=
  match Text.splitFirst ':' credentials with
  | some (user, password) => (user, some password)
  | none => (credentials, none)

def cutBefore (mark : Char) (text : List Char) : List Char × List Char :=
  (text.takeWhile (· ≠ mark), text.dropWhile (· ≠ mark))

/-- Reads what follows a known scheme; `none` if it is not a connection of the dialect. -/
def readConnection (scheme : List Char) (dialect : Dialect) (rest : List Char) :
    Option TargetUri :=
  let (credentials, afterCredentials) :=
    match splitCredentials rest with
    | some (credentials, after) => (some credentials, after)
    | none => (none, rest)
  let (beforeQuery, query) := cutBefore '?' afterCredentials
  let (authority, path) := cutBefore '/' beforeQuery
  let login := credentials.map readCredentials
  match readAuthority authority with
  | none => none
  | some (host, port) =>
    if (login.map Prod.fst) = some [] then none
    else
      let lead := scheme ++ "://".toList ++ (credentials.map (· ++ ['@'])).getD []
      some {
        lead := String.ofList lead
        authority := String.ofList authority
        tail := String.ofList (path ++ query)
        dialect
        user := login.map fun (user, _) => String.ofList user
        password := login.bind fun (_, password) => password.map String.ofList
        host := String.ofList host
        port
        database := if path.length ≤ 1 then none else some (String.ofList (path.drop 1))
        query := String.ofList (query.drop 1) }

def parse (text : String) : Except Fault TargetUri :=
  let cs := text.toList
  match Text.splitAround "://".toList cs with
  | none => .error (invalid text (presumedDialect cs))
  | some (scheme, rest) =>
    match Dialect.read (String.ofList scheme) with
    | .error fault => .error fault
    | .ok dialect =>
      match readConnection scheme dialect rest with
      | some uri => .ok uri
      | none => .error (invalid text dialect.name)

/-- The value of the first pair with this name. Pairs are joined by `&`; an item without `=` is no
pair, and question marks in front of the query do not count. -/
def queryParam (uri : TargetUri) (name : String) : Option String :=
  let items := Text.splitAll '&' (uri.query.toList.dropWhile (· = '?'))
  ((items.filterMap (Text.splitFirst '=')).find? fun (key, _) => key = name.toList).map
    fun (_, value) => String.ofList value

def sslMode (uri : TargetUri) : Except Fault (Option SslMode) :=
  match uri.queryParam "sslmode" with
  | none => .ok none
  | some text => (SslMode.read text).map some

def moveTo (uri : TargetUri) (host : String) (port : UInt16) : TargetUri :=
  { uri with authority := authorityText host (some port), host, port := some port }

end TargetUri
end Passage
