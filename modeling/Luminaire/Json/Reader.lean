/-
Reading JSON text (RFC 8259), without a limit on nesting.

Blanks are space, tab, line feed and carriage return. Control characters
may not stand in strings; escapes are the standard ones. Every reader
that repeats itself is bounded by `limit`, for which the length of the
whole text is always enough.
-/
import Luminaire.Json.Value
import Luminaire.Text.Hex

namespace Luminaire.Json

/-- The text without the blanks in front. -/
def skipBlanks (text : List Char) : List Char :=
  text.dropWhile fun c => c == ' ' || c == '\n' || c == '\t' || c == '\r'

/-- The text behind a word, if it starts with it. -/
def afterWord (word text : List Char) : Option (List Char) :=
  if word.isPrefixOf text then some (text.drop word.length) else none

-- ========================================================= numbers

/-- The leading decimal digits and the text behind them. -/
def spanDigits (text : List Char) : List Char × List Char :=
  (text.takeWhile Char.isDigit, text.dropWhile Char.isDigit)

/-- Behind an optional fraction; a point needs digits after it. -/
def skipFraction (text : List Char) : Option (Bool × List Char) :=
  match text with
  | '.' :: rest =>
      let (digits, rest) := spanDigits rest
      if digits.isEmpty then none else some (true, rest)
  | _ => some (false, text)

/-- Behind an optional exponent. -/
def skipExponent (text : List Char) : Option (Bool × List Char) :=
  let digitsOf (text : List Char) : Option (Bool × List Char) :=
    let (digits, rest) := spanDigits text
    if digits.isEmpty then none else some (true, rest)
  match text with
  | 'e' :: '+' :: rest | 'e' :: '-' :: rest | 'E' :: '+' :: rest | 'E' :: '-' :: rest
  | 'e' :: rest | 'E' :: rest => digitsOf rest
  | _ => some (false, text)

/-- Reads a number. Zero has no digits after it. -/
def readNumber (text : List Char) : Option (Json × List Char) :=
  let (negative, text) := match text with
    | '-' :: rest => (true, rest)
    | _ => (false, text)
  let (digits, rest) := spanDigits text
  if digits.isEmpty || (digits.head? == some '0' && 1 < digits.length) then none
  else
    match skipFraction rest with
    | none => none
    | some (fraction, rest) =>
        match skipExponent rest with
        | none => none
        | some (exponent, rest) =>
            let value := digits.foldl (fun value c => 10 * value + (c.toNat - 48)) 0
            if fraction || exponent || (negative && value = 0) then some (.otherNumber, rest)
            else if negative then some (.belowZero value, rest)
            else some (.whole value, rest)

-- ========================================================= strings

/-- What an escape or a plain character adds to a string. -/
inductive CodeUnit where
  | char (c : Char)
  /-- A UTF-16 unit written as an escape. -/
  | code (value : Nat)

/-- The number four hexadecimal digits spell. -/
def fourDigits? : List Char → Option (Nat × List Char)
  | a :: b :: c :: d :: rest =>
      match hexValue? a, hexValue? b, hexValue? c, hexValue? d with
      | some a, some b, some c, some d => some (4096 * a + 256 * b + 16 * c + d, rest)
      | _, _, _, _ => none
  | _ => none

/-- Reads one character or escape of a string. -/
def readUnit (text : List Char) : Option (CodeUnit × List Char) :=
  match text with
  | [] => none
  | '\\' :: 'u' :: rest => (fourDigits? rest).map fun (value, rest) => (.code value, rest)
  | '\\' :: c :: rest =>
      let plain : Option Char :=
        if c = '"' ∨ c = '\\' ∨ c = '/' then some c
        else if c = 'b' then some (Char.ofNat 8)
        else if c = 'f' then some (Char.ofNat 12)
        else if c = 'n' then some '\n'
        else if c = 'r' then some '\r'
        else if c = 't' then some '\t'
        else none
      plain.map fun c => (.char c, rest)
  | c :: rest => if c = '\\' ∨ c.toNat < 32 then none else some (.char c, rest)

/-- The characters that units spell, if every surrogate has its partner. -/
def spell? : List Char → List CodeUnit → Option (List Char)
  | done, [] => some done.reverse
  | done, .char c :: units => spell? (c :: done) units
  | done, .code value :: units =>
      if 0xd800 ≤ value ∧ value < 0xdc00 then
        match units with
        | .code low :: units =>
            if 0xdc00 ≤ low ∧ low < 0xe000 then
              spell? (Char.ofNat (0x10000 + (value - 0xd800) * 0x400 + (low - 0xdc00)) :: done) units
            else none
        | _ => none
      else if 0xdc00 ≤ value ∧ value < 0xe000 then none
      else spell? (Char.ofNat value :: done) units

/-- Reads the units of a string up to its closing quotation mark; `limit`
bounds their number. -/
def readUnits : (limit : Nat) → List CodeUnit → List Char → Option (List CodeUnit × List Char)
  | 0, _, _ => none
  | limit + 1, done, text =>
      match text with
      | '"' :: rest => some (done.reverse, rest)
      | text =>
          match readUnit text with
          | none => none
          | some (unit, rest) => readUnits limit (unit :: done) rest

/-- Reads a string from behind its opening quotation mark. -/
def readString (limit : Nat) (text : List Char) : Option (Option String × List Char) :=
  (readUnits limit [] text).map fun (units, rest) =>
    ((spell? [] units).map String.ofList, rest)

-- ======================================================= documents

/-- Reads things between commas up to a closing character; `limit` bounds
their number. -/
def readSeparated {α : Type} (close : Char) (read : List Char → Option (α × List Char)) :
    (limit : Nat) → List α → List Char → Option (List α × List Char)
  | 0, _, _ => none
  | limit + 1, done, text =>
      match read (skipBlanks text) with
      | none => none
      | some (value, rest) =>
          match skipBlanks rest with
          | [] => none
          | c :: rest =>
              if c = ',' then readSeparated close read limit (value :: done) rest
              else if c = close then some ((value :: done).reverse, rest)
              else none

/-- Reads what stands between an opening and a closing character. -/
def readEnclosed {α : Type} (close : Char) (read : List Char → Option (α × List Char))
    (limit : Nat) (text : List Char) : Option (List α × List Char) :=
  match skipBlanks text with
  | [] => none
  | c :: rest => if c = close then some ([], rest) else readSeparated close read limit [] text

/-- Reads a key, a colon and a value. -/
def readEntry (read : List Char → Option (Json × List Char)) (limit : Nat) (text : List Char) :
    Option ((Option String × Json) × List Char) :=
  match text with
  | '"' :: rest =>
      match readString limit rest with
      | none => none
      | some (key, rest) =>
          match skipBlanks rest with
          | ':' :: rest => (read (skipBlanks rest)).map fun (value, rest) => ((key, value), rest)
          | _ => none
  | _ => none

/-- Reads one value with at most `depth` levels of nesting. -/
def readValue (limit : Nat) : (depth : Nat) → List Char → Option (Json × List Char)
  | 0, _ => none
  | depth + 1, text =>
      match text with
      | [] => none
      | c :: rest =>
          if c = 'n' then (afterWord "ull".toList rest).map (.null, ·)
          else if c = 't' then (afterWord "rue".toList rest).map (.bool true, ·)
          else if c = 'f' then (afterWord "alse".toList rest).map (.bool false, ·)
          else if c = '"' then
            (readString limit rest).map fun (content, rest) => (.string content, rest)
          else if c = '[' then
            (readEnclosed ']' (readValue limit depth) limit rest).map fun (items, rest) =>
              (.array items, rest)
          else if c = '\x7b' then
            (readEnclosed '\x7d' (readEntry (readValue limit depth) limit) limit rest).map
              fun (entries, rest) => (.object entries, rest)
          else readNumber text

/-- The document a whole text spells. -/
def ofString? (text : String) : Option Json :=
  let text := text.toList
  let limit := text.length + 1
  match readValue limit limit (skipBlanks text) with
  | some (value, rest) => if (skipBlanks rest).isEmpty then some value else none
  | none => none

-- ========================================================== records

/-- The entries of an object for a key. -/
def named (name : String) (entries : List (Option String × Json)) : List Json :=
  entries.filterMap fun (key, value) => if key = some name then some value else none

/-- The values a document gives to named fields, none where it leaves one
out. An object gives them by name, each at most once, and may hold other
keys; an array gives them in order from the first. -/
def fields? (names : List String) (document : Json) : Option (List (Option Json)) :=
  match document with
  | .object entries =>
      if entries.all (fun entry => entry.1.isSome)
          && names.all (fun name => (named name entries).length ≤ 1) then
        some (names.map fun name => (named name entries).head?)
      else none
  | .array items =>
      if items.length ≤ names.length then
        some (items.map some ++ List.replicate (names.length - items.length) none)
      else none
  | _ => none

end Luminaire.Json
