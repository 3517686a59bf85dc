import GerberMask.Text.Blank

/-!
# Tokens

Line breaks mean nothing in a document. What is left is cut at `*`, which ends a block and is
dropped, and at `%`, which is kept as a token of its own because it opens and closes extended
commands. The text between two cuts is trimmed and dropped where nothing remains.

`Token.writeAll` is the other direction: every command is followed by `*`, every toggle is `%`.
A command is in normal form (`Token.Normal`) when it could have come out of a document.
-/

namespace GerberMask.Gerber

/-- A fragment of the command stream. -/
inductive Token where
  /-- The sign `%`: switches between blocks and extended commands. -/
  | toggle
  /-- The text of one block. -/
  | command (text : String)
  deriving DecidableEq, Repr

namespace Token

/-- Line breaks are dropped wherever they stand. -/
def isLineBreak (c : Char) : Bool :=
  c == '\r' || c == '\n'

/-- The token of a fragment that is complete, if anything remains of it. -/
def ofFragment (fragment : List Char) : List Token :=
  match Text.trim fragment with
  | [] => []
  | text => [command (String.ofList text)]

/-- The tokens of a text, given the fragment before it in reverse order. -/
def scanFrom (fragment : List Char) : List Char → List Token
  | [] => ofFragment fragment.reverse
  | c :: rest =>
    if isLineBreak c then scanFrom fragment rest
    else if c = '*' then ofFragment fragment.reverse ++ scanFrom [] rest
    else if c = '%' then ofFragment fragment.reverse ++ toggle :: scanFrom [] rest
    else scanFrom (c :: fragment) rest

/-- The tokens of a document. -/
def scan (source : String) : List Token :=
  scanFrom [] source.toList

/-! ### Writing tokens -/

/-- The text of a token, with the sign that ends it. -/
def write : Token → List Char
  | toggle => ['%']
  | command text => text.toList ++ ['*']

/-- A document with the given tokens. -/
def writeAll (tokens : List Token) : List Char :=
  tokens.flatMap write

/-- A toggle, or a command that is not empty, has no blank at either end and holds neither a line
break nor a sign that cuts. -/
def Normal : Token → Prop
  | toggle => True
  | command text =>
    text.toList ≠ [] ∧ Text.trim text.toList = text.toList ∧
      ∀ c ∈ text.toList, ¬ isLineBreak c ∧ c ≠ '*' ∧ c ≠ '%'

end Token

/-! ### A reading position -/

/-- The tokens of a document and the index of the next one to be read. -/
structure TokenCursor where
  tokens : Array Token
  position : Nat

namespace TokenCursor

/-- A cursor at the start of a document. -/
def ofSource (source : String) : TokenCursor :=
  ⟨(Token.scan source).toArray, 0⟩

/-- The next token, which stays unread. -/
def peek? (c : TokenCursor) : Option Token :=
  c.tokens[c.position]?

/-- The next token with its index, and the cursor after it; at the end nothing moves. -/
def next (c : TokenCursor) : Option (Nat × Token) × TokenCursor :=
  match c.peek? with
  | none => (none, c)
  | some t => (some (c.position, t), { c with position := c.position + 1 })

/-- The number of tokens that are unread. -/
def remaining (c : TokenCursor) : Nat :=
  c.tokens.size - c.position

end TokenCursor

end GerberMask.Gerber
