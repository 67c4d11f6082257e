/-
Armoured files (RFC 7468): binary sections between BEGIN and END lines,
in base64.

Text outside the sections is passed over, and so is a section whose
label is not among the known ones. A BEGIN line that is not finished by
five dashes, or a section without its own END line, ends the reading.
-/
import Luminaire.Text.Base64
import Luminaire.Text.Utf8

namespace Luminaire.Armour

/-- What a file holds, piece by piece. -/
inductive Piece where
  /-- A section of a known kind, still in base64. -/
  | part (label : String) (body : Bytes)
  /-- A place from which nothing more can be read. -/
  | broken
  deriving DecidableEq, Repr

/-- The kinds of section that are looked at. -/
def knownLabels : List String :=
  ["CERTIFICATE", "PUBLIC KEY", "RSA PRIVATE KEY", "PRIVATE KEY", "EC PRIVATE KEY", "X509 CRL",
    "CERTIFICATE REQUEST", "ECHCONFIG"]

/-- The lines of a file; either character ends one. -/
def lines (file : Bytes) : List Bytes :=
  file.foldr (fun byte lines =>
    if byte = 10 || byte = 13 then [] :: lines
    else
      match lines with
      | [] => [[byte]]
      | line :: lines => (byte :: line) :: lines) [[]]

def beginMark : Bytes := utf8 "-----BEGIN "

/-- The line a section with this label ends with. -/
def endMark (label : Bytes) : Bytes := utf8 "-----END " ++ label ++ utf8 "-----"

/-- The label on a BEGIN line: what stands before its last five dashes. -/
def beginLabel? (line : Bytes) : Option Bytes :=
  let tail := line.reverse.takeWhile fun byte => byte = 45 || byte = 32
  if (tail.filter (· = 45)).length = 5 then
    let blanks := (tail.reverse.takeWhile (· ≠ 45)).length
    some ((line.take (line.length - tail.length + blanks)).drop beginMark.length)
  else
    none

/-- The pieces of a file's lines, inside the section `current` if there is
one, of which `body` has been read. -/
def piecesFrom (current : Option Bytes) (body : Bytes) : List Bytes → List Piece
  | [] => if current.isSome then [.broken] else []
  | line :: lines =>
      if beginMark.isPrefixOf line then
        match beginLabel? line with
        | none => [.broken]
        | some label => piecesFrom (some label) body lines
      else
        match current with
        | none => piecesFrom none body lines
        | some label =>
            if (endMark label).isPrefixOf line then
              match knownLabels.find? fun known => utf8 known == label with
              | some known => .part known body :: piecesFrom none [] lines
              | none => piecesFrom none [] lines
            else piecesFrom current (body ++ line) lines

/-- The pieces of a file. -/
def pieces (file : Bytes) : List Piece := piecesFrom none [] (lines file)

end Luminaire.Armour
