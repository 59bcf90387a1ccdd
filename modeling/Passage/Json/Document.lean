import Passage.Text.Numeral

namespace Passage.Json

/-- A JSON text with its literals still unread: only when somebody asks for the text of one must its escapes name
characters. -/
inductive Document where
  | null
  | bool (b : Bool)
  | number (literal : List Char)
  | string (literal : List Char)
  | array (items : List Document)
  | object (members : List (List Char × Document))

def isSpace (c : Char) : Bool :=
  c = ' ' || c = '\t' || c = '\n' || c = '\r'

def skipSpace (text : List Char) : List Char :=
  text.dropWhile isSpace

def hexDigit? (c : Char) : Option Nat :=
  if '0' ≤ c ∧ c ≤ '9' then some (c.toNat - 48)
  else if 'a' ≤ c ∧ c ≤ 'f' then some (c.toNat - 87)
  else if 'A' ≤ c ∧ c ≤ 'F' then some (c.toNat - 55)
  else none

def unit? (a b c d : Char) : Option Nat := do
  let a ← hexDigit? a
  let b ← hexDigit? b
  let c ← hexDigit? c
  let d ← hexDigit? d
  return ((a * 16 + b) * 16 + c) * 16 + d

def shortEscape? (c : Char) : Option Char :=
  if c = '"' ∨ c = '\\' ∨ c = '/' then some c
  else if c = 'b' then some (Char.ofNat 8)
  else if c = 'f' then some (Char.ofNat 12)
  else if c = 'n' then some '\n'
  else if c = 'r' then some '\r'
  else if c = 't' then some '\t'
  else none

/-- Takes a literal up to its closing quote; the text starts after the opening one. -/
def takeLiteral : List Char → Option (List Char × List Char)
  | [] => none
  | '"' :: rest => some ([], rest)
  | '\\' :: 'u' :: a :: b :: c :: d :: rest =>
    match unit? a b c d with
    | some _ => (takeLiteral rest).map fun (l, r) => ('\\' :: 'u' :: a :: b :: c :: d :: l, r)
    | none => none
  | '\\' :: c :: rest =>
    match shortEscape? c with
    | some _ => (takeLiteral rest).map fun (l, r) => ('\\' :: c :: l, r)
    | none => none
  | c :: rest =>
    if c = '\\' ∨ c.toNat < 0x20 then none
    else (takeLiteral rest).map fun (l, r) => (c :: l, r)

/-- The text of a literal. Two hex escapes that form a surrogate pair are one character; a surrogate
on its own is no text. -/
def literalText? : List Char → Option (List Char)
  | [] => some []
  | '\\' :: 'u' :: a :: b :: c :: d :: '\\' :: 'u' :: e :: f :: g :: h :: rest =>
    match unit? a b c d, unit? e f g h with
    | some high, some low =>
      if 0xD800 ≤ high ∧ high < 0xDC00 ∧ 0xDC00 ≤ low ∧ low < 0xE000 then
        (literalText? rest).map
          (Char.ofNat (0x10000 + (high - 0xD800) * 1024 + (low - 0xDC00)) :: ·)
      else if 0xD800 ≤ high ∧ high < 0xE000 then none
      else
        (literalText? ('\\' :: 'u' :: e :: f :: g :: h :: rest)).map (Char.ofNat high :: ·)
    | _, _ => none
  | '\\' :: 'u' :: a :: b :: c :: d :: rest =>
    match unit? a b c d with
    | some n =>
      if 0xD800 ≤ n ∧ n < 0xE000 then none
      else (literalText? rest).map (Char.ofNat n :: ·)
    | none => none
  | '\\' :: c :: rest =>
    match shortEscape? c with
    | some e => (literalText? rest).map (e :: ·)
    | none => none
  | c :: rest => (literalText? rest).map (c :: ·)

def isDigit (c : Char) : Bool :=
  (Text.digit? c).isSome

def takeDigits (text : List Char) : Option (List Char × List Char) :=
  match text.takeWhile isDigit with
  | [] => none
  | digits => some (digits, text.dropWhile isDigit)

/-- Takes the integer part of a number: a zero stands alone. -/
def takeWhole (text : List Char) : Option (List Char × List Char) :=
  match text with
  | '0' :: rest =>
    match rest with
    | c :: _ => if isDigit c then none else some (['0'], rest)
    | [] => some (['0'], rest)
  | _ => takeDigits text

def takeFraction (text : List Char) : Option (List Char × List Char) :=
  match text with
  | '.' :: rest => (takeDigits rest).map fun (digits, rest) => ('.' :: digits, rest)
  | _ => some ([], text)

def takeExponent (text : List Char) : Option (List Char × List Char) :=
  match text with
  | e :: rest =>
    if e = 'e' ∨ e = 'E' then
      match rest with
      | sign :: after =>
        if sign = '+' ∨ sign = '-' then
          (takeDigits after).map fun (digits, rest) => (e :: sign :: digits, rest)
        else (takeDigits rest).map fun (digits, rest) => (e :: digits, rest)
      | [] => none
    else some ([], text)
  | [] => some ([], text)

/-- Takes a number: a sign, an integer part, a fraction and an exponent, all but the second optional. -/
def takeNumber (text : List Char) : Option (List Char × List Char) := do
  let (sign, text) :=
    match text with
    | '-' :: rest => (['-'], rest)
    | _ => ([], text)
  let (whole, text) ← takeWhole text
  let (fraction, text) ← takeFraction text
  let (exponent, text) ← takeExponent text
  return (sign ++ whole ++ fraction ++ exponent, text)

mutual

/-- Takes one value from the front of the text. Every nested value uses up fuel, and one unit for each
character is enough. -/
def takeValue : Nat → List Char → Option (Document × List Char)
  | 0, _ => none
  | fuel + 1, text =>
    match skipSpace text with
    | 'n' :: 'u' :: 'l' :: 'l' :: rest => some (.null, rest)
    | 't' :: 'r' :: 'u' :: 'e' :: rest => some (.bool true, rest)
    | 'f' :: 'a' :: 'l' :: 's' :: 'e' :: rest => some (.bool false, rest)
    | '"' :: rest => (takeLiteral rest).map fun (l, rest) => (.string l, rest)
    | '[' :: rest =>
      match skipSpace rest with
      | ']' :: rest => some (.array [], rest)
      | rest => (takeItems fuel rest).map fun (items, rest) => (.array items, rest)
    | '\x7b' :: rest =>
      match skipSpace rest with
      | '\x7d' :: rest => some (.object [], rest)
      | rest => (takeMembers fuel rest).map fun (members, rest) => (.object members, rest)
    | rest => (takeNumber rest).map fun (literal, rest) => (.number literal, rest)

def takeItems : Nat → List Char → Option (List Document × List Char)
  | 0, _ => none
  | fuel + 1, text =>
    match takeValue fuel text with
    | none => none
    | some (item, rest) =>
      match skipSpace rest with
      | ']' :: rest => some ([item], rest)
      | ',' :: rest => (takeItems fuel rest).map fun (items, rest) => (item :: items, rest)
      | _ => none

def takeMembers : Nat → List Char → Option (List (List Char × Document) × List Char)
  | 0, _ => none
  | fuel + 1, text =>
    match skipSpace text with
    | '"' :: rest =>
      match takeLiteral rest with
      | none => none
      | some (key, rest) =>
        match skipSpace rest with
        | ':' :: rest =>
          match takeValue fuel rest with
          | none => none
          | some (value, rest) =>
            match skipSpace rest with
            | '\x7d' :: rest => some ([(key, value)], rest)
            | ',' :: rest =>
              (takeMembers fuel rest).map fun (members, rest) => ((key, value) :: members, rest)
            | _ => none
        | _ => none
    | _ => none

end

def Document.read? (text : String) : Option Document :=
  let cs := text.toList
  match takeValue (2 * cs.length + 2) cs with
  | some (value, rest) => if (skipSpace rest).isEmpty then some value else none
  | none => none

namespace Document

def text? : Document → Option String
  | .string literal => (literalText? literal).map String.ofList
  | _ => none

/-- A sixteen-bit number written without sign, fraction or exponent. -/
def port? : Document → Option UInt16
  | .number literal => if literal.all isDigit then Text.port? literal else none
  | _ => none

def nullable {α : Type} (read : Document → Option α) : Document → Option (Option α)
  | .null => some none
  | d => (read d).map some

/-- The members of an object by name; no member at all for a name that is written twice. -/
def members? : Document → Option (List (String × Document))
  | .object members => members.mapM fun (key, value) =>
      (literalText? key).map fun k => (String.ofList k, value)
  | _ => none

def valuesOf (name : String) (members : List (String × Document)) : List Document :=
  members.filterMap fun (key, value) => if key = name then some value else none

def required {α : Type} (read : Document → Option α) (name : String)
    (members : List (String × Document)) : Option α :=
  match valuesOf name members with
  | [value] => read value
  | _ => none

/-- The value written under a name at most once, and otherwise `absent`. -/
def optional {α : Type} (read : Document → Option α) (absent : α) (name : String)
    (members : List (String × Document)) : Option α :=
  match valuesOf name members with
  | [] => some absent
  | [value] => read value
  | _ => none

end Document
end Passage.Json
