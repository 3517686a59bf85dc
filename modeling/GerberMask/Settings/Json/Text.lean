import GerberMask.Text.Hexadecimal

/-!
# Texts in JSON

A text stands between quotes. A backslash writes a quote, a backslash, a slash, one of five control
characters or a UTF-16 unit in four hexadecimal digits; control characters cannot stand for
themselves. Units of surrogate pairs have to come in pairs: a text with half of a pair is well
formed and denotes nothing.
-/

namespace GerberMask.Settings.Json

open GerberMask.Text (hexDigit hexNumber?)

/-- What one step of a text in JSON writes. -/
inductive Piece where
  | char (c : Char)
  /-- A UTF-16 unit. -/
  | unit (n : Nat)
  deriving DecidableEq, Repr

/-- The character that a backslash and a letter write. -/
def escaped? : Char → Option Char
  | '"' => some '"'
  | '\\' => some '\\'
  | '/' => some '/'
  | 'b' => some '\x08'
  | 'f' => some '\x0c'
  | 'n' => some '\n'
  | 'r' => some '\r'
  | 't' => some '\t'
  | _ => none

/-- The steps of a text up to its closing quote, and what follows the quote. -/
def pieces? : List Char → Option (List Piece × List Char)
  | [] => none
  | '"' :: rest => some ([], rest)
  | '\\' :: 'u' :: a :: b :: c :: d :: rest =>
    match hexNumber? [a, b, c, d], pieces? rest with
    | some n, some (ps, rest) => some (.unit n :: ps, rest)
    | _, _ => none
  | '\\' :: e :: rest =>
    match escaped? e, pieces? rest with
    | some c, some (ps, rest) => some (.char c :: ps, rest)
    | _, _ => none
  | c :: rest =>
    if c.toNat < 0x20 then none
    else (pieces? rest).map fun (ps, rest) ↦ (.char c :: ps, rest)

/-- Whether a unit is the first half of a pair. -/
def isHighHalf (n : Nat) : Bool := 0xd800 ≤ n && n < 0xdc00

/-- Whether a unit is the second half of a pair. -/
def isLowHalf (n : Nat) : Bool := 0xdc00 ≤ n && n < 0xe000

/-- The characters that the steps of a text denote. -/
def decode? : List Piece → Option (List Char)
  | [] => some []
  | .char c :: ps => (decode? ps).map (c :: ·)
  | .unit n :: ps =>
    if isLowHalf n then none
    else if isHighHalf n then
      match ps with
      | .unit m :: ps =>
        if isLowHalf m then
          (decode? ps).map (Char.ofNat (0x10000 + (n - 0xd800) * 0x400 + (m - 0xdc00)) :: ·)
        else none
      | _ => none
    else (decode? ps).map (Char.ofNat n :: ·)

/-- How a character is written within a text. -/
def writeChar (c : Char) : List Char :=
  match c with
  | '"' => ['\\', '"']
  | '\\' => ['\\', '\\']
  | '\x08' => ['\\', 'b']
  | '\x0c' => ['\\', 'f']
  | '\n' => ['\\', 'n']
  | '\r' => ['\\', 'r']
  | '\t' => ['\\', 't']
  | c =>
    if c.toNat < 0x20 then ['\\', 'u', '0', '0', hexDigit (c.toNat / 16), hexDigit c.toNat] else [c]

/-- A text with its quotes. -/
def writeText (cs : List Char) : List Char :=
  '"' :: cs.flatMap writeChar ++ ['"']

end GerberMask.Settings.Json
