/-
JSON documents and their compact text.

Whole numbers are all that anybody here reads, so any other number is kept
as just that. A string whose escapes pair surrogates wrongly spells no text;
it is still a string, and may stand where nobody reads it.
-/

namespace Luminaire

inductive Json where
  | null
  | bool (value : Bool)
  /-- A number written as digits alone. -/
  | whole (value : Nat)
  /-- The number below zero at this distance, written as digits alone. -/
  | belowZero (distance : Nat)
  /-- A fraction, a number with an exponent, or zero below zero. -/
  | otherNumber
  | string (content : Option String)
  | array (items : List Json)
  | object (entries : List (Option String × Json))

namespace Json

/-- An object with plain keys. -/
def ofPairs (pairs : List (String × Json)) : Json :=
  .object (pairs.map fun (key, value) => (some key, value))

def ofText (text : String) : Json := .string (some text)

def ofInt : Int → Json
  | .ofNat value => .whole value
  | .negSucc value => .belowZero (value + 1)

/-- A value, or null. -/
def orNull {α : Type} (write : α → Json) : Option α → Json
  | none => .null
  | some value => write value

-- ============================================================ text

private def hexNibble (digit : Nat) : Char := (Nat.toDigits 16 digit).headD '0'

/-- A character inside a JSON string. -/
def escapeChar (c : Char) : List Char :=
  if c = '"' then ['\\', '"']
  else if c = '\\' then ['\\', '\\']
  else if c = '\n' then ['\\', 'n']
  else if c = '\r' then ['\\', 'r']
  else if c = '\t' then ['\\', 't']
  else if c.toNat = 8 then ['\\', 'b']
  else if c.toNat = 12 then ['\\', 'f']
  else if c.toNat < 32 then
    ['\\', 'u', '0', '0', hexNibble (c.toNat / 16), hexNibble (c.toNat % 16)]
  else [c]

def renderString (text : String) : List Char :=
  '"' :: (text.toList.flatMap escapeChar ++ ['"'])

/-- Parts with a comma between them. -/
def commaSeparated : List (List Char) → List Char
  | [] => []
  | [part] => part
  | part :: parts => part ++ ',' :: commaSeparated parts

mutual

/-- The compact text of a document. -/
def render : Json → List Char
  | .null => "null".toList
  | .bool true => "true".toList
  | .bool false => "false".toList
  | .whole value => Nat.toDigits 10 value
  | .belowZero distance => '-' :: Nat.toDigits 10 distance
  | .otherNumber => ['0']
  | .string content => renderString (content.getD "")
  | .array items => '[' :: (commaSeparated (renderItems items) ++ [']'])
  | .object entries => '\x7b' :: (commaSeparated (renderEntries entries) ++ ['\x7d'])

def renderItems : List Json → List (List Char)
  | [] => []
  | item :: items => item.render :: renderItems items

def renderEntries : List (Option String × Json) → List (List Char)
  | [] => []
  | (key, value) :: entries =>
      (renderString (key.getD "") ++ ':' :: value.render) :: renderEntries entries

end

end Json

end Luminaire
