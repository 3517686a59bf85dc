import GerberMask.Text.Hexadecimal

/-!
# Texts in TOML

A text stands between quotes or apostrophes. Between quotes a backslash writes a character that
cannot stand for itself; between apostrophes every character stands for itself. Three marks at
either end make a text of several lines, in which a line break at the very beginning does not
count. Line breaks are read as line feeds. Control characters other than tabs cannot stand for
themselves.

A text is written in the first of these forms that needs no backslash: between quotes, between
apostrophes, in several lines between quotes, in several lines between apostrophes. If none will
do, it is written between quotes with backslashes, in several lines exactly if it has line breaks.
-/

namespace GerberMask.Settings.Toml

open GerberMask.Text (hexDigit hexNumber?)

/-- A blank within a line. -/
def isBlank (c : Char) : Bool :=
  c == ' ' || c == '\t'

/-- A character that can stand in a line. -/
def isPlain (c : Char) : Bool :=
  c == '\t' || (0x20 ≤ c.toNat && c.toNat != 0x7f)

/-- What follows a line break at the beginning of a text. -/
def lineBreak? : List Char → Option (List Char)
  | '\n' :: rest => some rest
  | '\r' :: '\n' :: rest => some rest
  | _ => none

/-- What follows a line break at the beginning of a text, or the text itself. -/
def dropLineBreak (cs : List Char) : List Char :=
  (lineBreak? cs).getD cs

/-! ### Escapes -/

/-- The character that a backslash and a letter write. -/
def escaped? : Char → Option Char
  | 'b' => some '\x08'
  | 't' => some '\t'
  | 'n' => some '\n'
  | 'f' => some '\x0c'
  | 'r' => some '\r'
  | '"' => some '"'
  | '\\' => some '\\'
  | _ => none

/-- The character with a number, if there is one. -/
def charOf? (n : Nat) : Option Char :=
  if n < 0xd800 ∨ (0xe000 ≤ n ∧ n < 0x110000) then some (Char.ofNat n) else none

/-- The character that hexadecimal digits write. -/
def hexChar? (cs : List Char) : Option Char :=
  (hexNumber? cs).bind charOf?

/-- A text with one more character in front. -/
def prepend (c? : Option Char) (r : Option (List Char × List Char)) :
    Option (List Char × List Char) :=
  match c?, r with
  | some c, some (cs, rest) => some (c :: cs, rest)
  | _, _ => none

/-! ### Reading -/

/-- The text up to a closing quote, and what follows the quote. -/
def basic? : List Char → Option (List Char × List Char)
  | [] => none
  | '"' :: rest => some ([], rest)
  | '\\' :: 'u' :: a :: b :: c :: d :: rest => prepend (hexChar? [a, b, c, d]) (basic? rest)
  | '\\' :: 'U' :: a :: b :: c :: d :: e :: f :: g :: h :: rest =>
    prepend (hexChar? [a, b, c, d, e, f, g, h]) (basic? rest)
  | '\\' :: e :: rest => prepend (escaped? e) (basic? rest)
  | c :: rest => prepend (some c |>.filter isPlain) (basic? rest)

/-- The text up to a closing apostrophe, and what follows it. -/
def literal? : List Char → Option (List Char × List Char)
  | [] => none
  | '\'' :: rest => some ([], rest)
  | c :: rest => prepend (some c |>.filter isPlain) (literal? rest)

/-- The marks in front of three closing ones belong to the text, two at most. -/
def closing (mark : Char) : List Char → List Char × List Char
  | c :: d :: rest =>
    if c = mark ∧ d = mark then ([mark, mark], rest)
    else if c = mark then ([mark], d :: rest)
    else ([], c :: d :: rest)
  | [c] => if c = mark then ([mark], []) else ([], [c])
  | [] => ([], [])

/-- Whether only blanks stand between here and a line break. -/
def endsLine (cs : List Char) : Bool :=
  (lineBreak? (cs.dropWhile isBlank)).isSome

/-- A text of several lines up to three closing quotes, and what follows them. A backslash at the
end of a line takes the blanks and line breaks after it out of the text: while they are dropped,
the flag is set. -/
def basicLines? : Bool → List Char → Option (List Char × List Char)
  | _, [] => none
  | true, ' ' :: rest => basicLines? true rest
  | true, '\t' :: rest => basicLines? true rest
  | true, '\n' :: rest => basicLines? true rest
  | true, '\r' :: '\n' :: rest => basicLines? true rest
  | _, '"' :: '"' :: '"' :: rest => some (closing '"' rest)
  | _, '\n' :: rest => prepend (some '\n') (basicLines? false rest)
  | _, '\r' :: '\n' :: rest => prepend (some '\n') (basicLines? false rest)
  | _, '\\' :: 'u' :: a :: b :: c :: d :: rest =>
    prepend (hexChar? [a, b, c, d]) (basicLines? false rest)
  | _, '\\' :: 'U' :: a :: b :: c :: d :: e :: f :: g :: h :: rest =>
    prepend (hexChar? [a, b, c, d, e, f, g, h]) (basicLines? false rest)
  | _, '\\' :: e :: rest =>
    if endsLine (e :: rest) then basicLines? true (e :: rest)
    else prepend (escaped? e) (basicLines? false rest)
  | _, c :: rest => prepend (some c |>.filter isPlain) (basicLines? false rest)

/-- A text of several lines up to three closing apostrophes, and what follows them. -/
def literalLines? : List Char → Option (List Char × List Char)
  | [] => none
  | '\'' :: '\'' :: '\'' :: rest => some (closing '\'' rest)
  | '\n' :: rest => prepend (some '\n') (literalLines? rest)
  | '\r' :: '\n' :: rest => prepend (some '\n') (literalLines? rest)
  | c :: rest => prepend (some c |>.filter isPlain) (literalLines? rest)

/-- The text on one line at the beginning of a text, and what follows it. -/
def quoted? : List Char → Option (List Char × List Char)
  | '"' :: rest => basic? rest
  | '\'' :: rest => literal? rest
  | _ => none

/-- The text in any form at the beginning of a text, and what follows it. -/
def text? : List Char → Option (List Char × List Char)
  | '"' :: '"' :: '"' :: rest => basicLines? false (dropLineBreak rest)
  | '\'' :: '\'' :: '\'' :: rest => literalLines? (dropLineBreak rest)
  | cs => quoted? cs

/-! ### Writing -/

/-- The greatest number of marks in a row. -/
def longestRun (mark : Char) : Nat → List Char → Nat
  | run, [] => run
  | run, c :: cs =>
    if c = mark then longestRun mark (run + 1) cs else max run (longestRun mark 0 cs)

/-- Whether a character can stand neither for itself nor in lines of their own. -/
def needsEscape (c : Char) : Bool :=
  !isPlain c && c != '\n'

/-- A character between quotes, written with a backslash where it has to be. -/
def writeChar (c : Char) : List Char :=
  match c with
  | '\x08' => ['\\', 'b']
  | '\t' => ['\\', 't']
  | '\n' => ['\\', 'n']
  | '\x0c' => ['\\', 'f']
  | '\r' => ['\\', 'r']
  | '"' => ['\\', '"']
  | '\\' => ['\\', '\\']
  | c =>
    if isPlain c then [c]
    else ['\\', 'u', '0', '0', (hexDigit (c.toNat / 16)).toUpper, (hexDigit c.toNat).toUpper]

/-- The characters of a text of several lines between quotes: line breaks stand for themselves, and
of quotes in a row every third has a backslash. -/
def writeLines : Nat → List Char → List Char
  | _, [] => []
  | quotes, c :: cs =>
    if c = '"' then
      if quotes < 2 then '"' :: writeLines (quotes + 1) cs else '\\' :: '"' :: writeLines 0 cs
    else if c = '\n' then '\n' :: writeLines 0 cs
    else writeChar c ++ writeLines 0 cs

/-- A text in the first form that will do. -/
def writeText (cs : List Char) : List Char :=
  let quotes := longestRun '"' 0 cs
  let apostrophes := longestRun '\'' 0 cs
  let lines := cs.contains '\n'
  let backslash := cs.contains '\\'
  let escape := cs.any needsEscape
  let opening := if lines then ['\n'] else []
  if !escape && !backslash && quotes == 0 && !lines then '"' :: cs.flatMap writeChar ++ ['"']
  else if !escape && apostrophes == 0 && !lines then '\'' :: cs ++ ['\'']
  else if !escape && !backslash && quotes ≤ 2 then
    "\"\"\"".toList ++ opening ++ writeLines 0 cs ++ "\"\"\"".toList
  else if !escape && apostrophes ≤ 2 then
    "\'\'\'".toList ++ opening ++ cs ++ "\'\'\'".toList
  else if lines then "\"\"\"".toList ++ opening ++ writeLines 0 cs ++ "\"\"\"".toList
  else '"' :: cs.flatMap writeChar ++ ['"']

end GerberMask.Settings.Toml
