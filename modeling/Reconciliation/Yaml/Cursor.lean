/-!
# Places in a YAML text

Layout is part of the grammar, so a scanner has to know the line and the column at which it stands. Line
breaks are made uniform before a text is scanned. Only the separators of lines and of paragraphs keep
their own character, because a scalar may contain them.
-/

namespace Reconciliation

namespace Yaml

/-- Why a text is no YAML, or stands for nothing. -/
inductive Error where
  | control
  | directive
  | version
  | handle
  | anchorName
  | tag
  | token
  | simpleKey
  | layout
  | tab
  | blockHeader
  | unclosedQuote
  | escape
  | flowColon
  | content
  | unknownAnchor
  | tooDeep
  | tooManyAliases
  | duplicateKey
  | mismatch
  | number
  | key
  deriving DecidableEq, Repr

def Error.message : Error → String
  | control => "control characters are not allowed"
  | directive => "while scanning a directive, found an unknown or malformed directive"
  | version => "found incompatible YAML document"
  | handle => "found undefined tag handle"
  | anchorName => "while scanning an anchor, did not find expected alphabetic or numeric character"
  | tag => "while scanning a tag, did not find expected whitespace or line break"
  | token => "found character that cannot start any token"
  | simpleKey => "while scanning a simple key, could not find expected ':'"
  | layout => "mapping values are not allowed in this context"
  | tab => "found a tab character where an indentation space is expected"
  | blockHeader => "while scanning a block scalar, did not find expected comment or line break"
  | unclosedQuote => "while scanning a quoted scalar, found unexpected end of stream"
  | escape => "while parsing a quoted scalar, found unknown escape character"
  | flowColon => "while scanning a plain scalar, found unexpected ':'"
  | content => "did not find expected node content"
  | unknownAnchor => "unknown anchor"
  | tooDeep => "recursion limit exceeded"
  | tooManyAliases => "repetition limit exceeded"
  | duplicateKey => "duplicate entry in mapping"
  | mismatch => "invalid value for the tag"
  | number => "number out of range"
  | key => "invalid type of a mapping key"

/-! ### Characters -/

/-- The character of the next line, which is a break of its own. -/
def nextLine : Char := Char.ofNat 0x85

def isAllowed (c : Char) : Bool :=
  let n := c.toNat
  n == 9 || n == 10 || n == 13 || (0x20 ≤ n && n ≤ 0x7E) || n == 0x85 || (0xA0 ≤ n && n ≤ 0xFFFD)
    || 0x10000 ≤ n

def uniform : List Char → List Char
  | [] => []
  | '\r' :: '\n' :: rest => '\n' :: uniform rest
  | c :: rest => (if c = '\r' ∨ c = nextLine then '\n' else c) :: uniform rest

/-- Whether a character breaks a line, once breaks are uniform. -/
def isBreak (c : Char) : Bool :=
  c == '\n' || c.toNat == 0x2028 || c.toNat == 0x2029

def isBlank (c : Char) : Bool :=
  c == ' ' || c == '\t'

def isSpace (c : Char) : Bool :=
  isBlank c || isBreak c

/-- Whether a word ends here: before a blank, a break or the end of the text. -/
def endsWord : List Char → Bool
  | [] => true
  | c :: _ => isSpace c

def isNameChar (c : Char) : Bool :=
  c.isAlphanum || c == '_' || c == '-'

/-- Whether the text is a mark of three such characters. -/
def isMark (c : Char) : List Char → Bool
  | a :: b :: d :: rest => a == c && b == c && d == c && endsWord rest
  | _ => false

/-! ### Cursors -/

/-- A place: the text from there on, and its line and column. -/
structure Cursor where
  rest : List Char
  line : Nat := 0
  column : Nat := 0

namespace Cursor

/-- The place after so many characters of the same line. -/
def advance (c : Cursor) (n : Nat) : Cursor :=
  { c with rest := c.rest.drop n, column := c.column + n }

/-- The place after a line break. -/
def advanceLine (c : Cursor) : Cursor :=
  { rest := c.rest.drop 1, line := c.line + 1 }

def next (c : Cursor) : Cursor :=
  match c.rest with
  | [] => c
  | x :: _ => if isBreak x then c.advanceLine else c.advance 1

/-- The characters of this line from here on that have a property, and the place after them. -/
def span (c : Cursor) (p : Char → Bool) : List Char × Cursor :=
  let taken := c.rest.takeWhile fun x => p x && !isBreak x
  (taken, c.advance taken.length)

/-- The place after the characters of this line that have a property. -/
def skip (c : Cursor) (p : Char → Bool) : Cursor :=
  (c.span p).2

def atDocumentStart (c : Cursor) : Bool :=
  c.column == 0 && isMark '-' c.rest

def atDocumentEnd (c : Cursor) : Bool :=
  c.column == 0 && isMark '.' c.rest

/-- Whether a document starts or ends here. -/
def atDocumentMark (c : Cursor) : Bool :=
  c.atDocumentStart || c.atDocumentEnd

end Cursor

end Yaml

end Reconciliation
