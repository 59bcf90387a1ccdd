import Passage.Text.Split

namespace Passage

/-- What stands in place of a password in every text that leaves the library. -/
def hiddenPassword : String := "**sanitizedPassword**"

/-- Splits what follows the scheme into credentials and the rest, and leaves out the `@` between them.
An `@` whose user would hold `?` or `#` belongs to a query, so there are no credentials. -/
def splitCredentials (rest : List Char) : Option (List Char × List Char) :=
  let head := rest.takeWhile (· ≠ '/')
  match Text.splitLast '@' head with
  | none => none
  | some (credentials, afterAt) =>
    let user := credentials.takeWhile (· ≠ ':')
    if '?' ∈ user ∨ '#' ∈ user then none
    else some (credentials, afterAt ++ rest.dropWhile (· ≠ '/'))

def hideIn (credentials : List Char) : List Char :=
  match Text.splitFirst ':' credentials with
  | some (user, _) => user ++ ':' :: hiddenPassword.toList
  | none => credentials

/-- A connection URI with its password hidden. Text that is no URI is returned as it is. -/
def sanitizeChars (uri : List Char) : List Char :=
  match Text.splitAround "://".toList uri with
  | none => uri
  | some (scheme, rest) =>
    match splitCredentials rest with
    | none => uri
    | some (credentials, after) =>
      scheme ++ "://".toList ++ hideIn credentials ++ '@' :: after

def sanitize (uri : String) : String :=
  String.ofList (sanitizeChars uri.toList)

end Passage
