import Passage.Json.Document
import Passage.Target.Options

namespace Passage

open Json (Document)

/-- A dialect by its exact name, alone or as the one member of an object whose value is null. -/
def Dialect.ofDocument? : Document → Option Dialect
  | .string literal => (Document.text? (.string literal)).bind Dialect.ofName?
  | .object [(key, .null)] => (Document.text? (.string key)).bind Dialect.ofName?
  | _ => none

def TargetFields.ofDocument? : Document → Option TargetFields
  | .array [dialect, host, port, database, user, password] => do
    return {
      dialect := ← dialect.nullable Dialect.ofDocument?
      host := ← host.nullable Document.text?
      port := ← port.nullable Document.port?
      database := ← database.nullable Document.text?
      user := ← user.nullable Document.text?
      password := ← password.nullable Document.text? }
  | .object members => do
    let members ← (Document.object members).members?
    return {
      dialect := ← Document.optional (Document.nullable Dialect.ofDocument?) none "dialect" members
      host := ← Document.optional (Document.nullable Document.text?) none "host" members
      port := ← Document.optional (Document.nullable Document.port?) none "port" members
      database := ← Document.optional (Document.nullable Document.text?) none "database" members
      user := ← Document.optional (Document.nullable Document.text?) none "user" members
      password := ← Document.optional (Document.nullable Document.text?) none "password" members }
  | _ => none

/-- A proxy by name, or as an array that may end before the credentials. -/
def Proxy.ofDocument? : Document → Option Proxy
  | .array (host :: port :: credentials) => do
    let host ← host.text?
    let port ← port.port?
    match credentials with
    | [] => return { host, port }
    | [userId] => return { host, port, userId := ← userId.nullable Document.text? }
    | [userId, password] =>
      return {
        host
        port
        userId := ← userId.nullable Document.text?
        password := ← password.nullable Document.text? }
    | _ => none
  | .object members => do
    let members ← (Document.object members).members?
    return {
      host := ← Document.required Document.text? "host" members
      port := ← Document.required Document.port? "port" members
      userId := ← Document.optional (Document.nullable Document.text?) none "userId" members
      password := ← Document.optional (Document.nullable Document.text?) none "password" members }
  | _ => none

/-- A jump host by name, on the usual port if none is given, or as an array that may end before the
passphrase. -/
def JumpHost.ofDocument? : Document → Option JumpHost
  | .array (host :: port :: username :: privateKey :: passphrase) => do
    let host ← host.text?
    let port ← port.port?
    let username ← username.text?
    let privateKey ← privateKey.text?
    match passphrase with
    | [] => return { host, port, username, privateKey }
    | [phrase] =>
      return { host, port, username, privateKey, passphrase := ← phrase.nullable Document.text? }
    | _ => none
  | .object members => do
    let members ← (Document.object members).members?
    return {
      host := ← Document.required Document.text? "host" members
      port := ← Document.optional Document.port? 22 "port" members
      username := ← Document.required Document.text? "username" members
      privateKey := ← Document.required Document.text? "privateKey" members
      passphrase := ← Document.optional (Document.nullable Document.text?) none "passphrase" members }
  | _ => none

end Passage
