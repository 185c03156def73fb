import Reconciliation.Yaml.Scalar.Block
import Reconciliation.Yaml.Scalar.Plain
import Reconciliation.Yaml.Scalar.Quoted
import Reconciliation.Yaml.Token.Tag
/-!
# From text to tokens

Block collections are opened where something stands further right than the enclosing collection, and
closed where something stands further left. Whether a token begins a key is only known when the colon
after it is found, so a place where a key may have begun is remembered on each level of flow collections;
the token of the key, and the start of its mapping, are put in there afterwards. A key ends on the line on
which it began, at most 1024 characters later.
-/

namespace Reconciliation

namespace Yaml

/-- A place where a key may have begun: how many tokens were before it, its line and column, and whether
nothing else than a key may stand there. -/
structure KeyPlace where
  tokens : Nat
  line : Nat
  column : Nat
  required : Bool
  deriving DecidableEq, Repr

/-- Whether a place is too far away for a key that began there to end. -/
def KeyPlace.isFar (k : KeyPlace) (c : Cursor) : Bool :=
  k.line < c.line || k.column + 1024 < c.column

/-- What a scan knows: the place, the tokens so far, the columns of the open block collections from the
inner to the outer, whether a key may begin, and for each level of flow collections, from the inner to
the outermost, the place where one may have begun. -/
structure Lexer where
  cursor : Cursor
  tokens : Array Token := #[]
  indents : List Nat := []
  keyAllowed : Bool := true
  levels : List (Option KeyPlace) := [none]

namespace Lexer

def inFlow (l : Lexer) : Bool :=
  l.levels.length > 1

/-- The least column of what belongs to the innermost block collection but not to its parent: the column
after that collection. -/
def margin (l : Lexer) : Nat :=
  match l.indents with
  | [] => 0
  | n :: _ => n + 1

def push (l : Lexer) (t : Token) : Lexer :=
  { l with tokens := l.tokens.push t }

/-- Closes the block collections right of a column; all of them if there is none. -/
def close (l : Lexer) (column : Option Nat) : Lexer :=
  if l.inFlow then l
  else
    let closed := l.indents.takeWhile fun n => column.all (· < n)
    { l with
      tokens := closed.foldl (fun ts _ => ts.push .blockEnd) l.tokens
      indents := l.indents.drop closed.length }

/-- Opens a block collection at a column, before the token of the given number, unless one is open
there. -/
def openAt (l : Lexer) (column number : Nat) (t : Token) : Lexer :=
  if l.inFlow || column < l.margin then l
  else { l with tokens := l.tokens.insertIdxIfInBounds number t, indents := column :: l.indents }

/-! ### Places of keys -/

/-- Forgets a place that is too far away to begin a key. -/
def expire (c : Cursor) : Option KeyPlace → Except Error (Option KeyPlace)
  | none => .ok none
  | some k =>
    if !k.isFar c then .ok (some k)
    else if k.required then .error .simpleKey
    else .ok none

/-- Forgets all places that are too far away to begin a key. -/
def expireKeys (l : Lexer) : Except Error Lexer := do
  return { l with levels := ← l.levels.mapM (expire l.cursor) }

def dropKey (l : Lexer) : Except Error Lexer :=
  match l.levels with
  | some k :: rest => if k.required then .error .simpleKey else .ok { l with levels := none :: rest }
  | _ => .ok l

/-- Remembers this place as one where a key may begin. -/
def markKey (l : Lexer) : Except Error Lexer := do
  if !l.keyAllowed then return l
  let required := !l.inFlow && l.indents.head? == some l.cursor.column
  let l ← l.dropKey
  return { l with
    levels := some ⟨l.tokens.size, l.cursor.line, l.cursor.column, required⟩ :: l.levels.drop 1 }

/-! ### Tokens -/

/-- Drops the key place on this level, allows or forbids a key, and takes a token of so many
characters. -/
def take (l : Lexer) (t : Token) (width : Nat) (keyAllowed : Bool) : Except Error Lexer := do
  let l ← l.dropKey
  return { (l.push t) with cursor := l.cursor.advance width, keyAllowed := keyAllowed }

/-- Closes all block collections before a token of the document. -/
def endBlocks (l : Lexer) : Except Error Lexer := do
  return { (← (l.close none).dropKey) with keyAllowed := false }

def directive (l : Lexer) : Except Error Lexer := do
  let l ← l.endBlocks
  let (t, c) ← Directive.scan l.cursor
  return { (l.push t) with cursor := c }

def documentMark (l : Lexer) (t : Token) : Except Error Lexer := do
  (← l.endBlocks).take t 3 false

def enterFlow (l : Lexer) (t : Token) : Except Error Lexer := do
  let l ← l.markKey
  return { (l.push t) with
    cursor := l.cursor.advance 1
    levels := none :: l.levels
    keyAllowed := true }

def leaveFlow (l : Lexer) (t : Token) : Except Error Lexer := do
  let l ← l.dropKey
  return { (l.push t) with
    cursor := l.cursor.advance 1
    levels := if l.inFlow then l.levels.drop 1 else l.levels
    keyAllowed := false }

/-- Opens a block collection here, if a key may begin here. -/
def openHere (l : Lexer) (t : Token) : Except Error Lexer :=
  if l.inFlow then .ok l
  else if !l.keyAllowed then .error .layout
  else .ok (l.openAt l.cursor.column l.tokens.size t)

def entry (l : Lexer) : Except Error Lexer := do
  (← l.openHere .blockSequence).take .blockEntry 1 true

def explicitKey (l : Lexer) : Except Error Lexer := do
  (← l.openHere .blockMapping).take .key 1 (!l.inFlow)

/-- Takes the colon of a value. What was remembered as a possible key is one. -/
def value (l : Lexer) : Except Error Lexer :=
  match l.levels with
  | some k :: rest =>
    let l := { l with tokens := l.tokens.insertIdxIfInBounds k.tokens .key, levels := none :: rest }
    (l.openAt k.column k.tokens .blockMapping).take .value 1 false
  | _ => do
    (← l.openHere .blockMapping).take .value 1 (!l.inFlow)

def node (l : Lexer) (scan : Cursor → Scan) : Except Error Lexer := do
  let l ← l.markKey
  let (t, c) ← scan l.cursor
  return { (l.push t) with cursor := c, keyAllowed := false }

def block (l : Lexer) : Except Error Lexer := do
  let l ← l.dropKey
  let (text, c) ← Block.scan l.margin l.cursor
  return { (l.push (.scalar false (String.ofList text))) with cursor := c, keyAllowed := true }

def quoted (l : Lexer) (style : Quoted.Style) : Except Error Lexer :=
  l.node fun c => do
    let (text, c) ← Quoted.scan style c
    return (.scalar false (String.ofList text), c)

/-- Takes a plain scalar. A key may begin after it only on a later line. -/
def plain (l : Lexer) : Except Error Lexer := do
  let l ← l.markKey
  let s ← Plain.scan l.inFlow l.margin l.cursor
  return { (l.push (.scalar true (String.ofList s.text))) with
    cursor := s.next, keyAllowed := s.crossed }

def indicators : List Char := [
  '-', '?', ':', ',', '[', ']', '\x7b', '\x7d', '#', '&', '*', '!', '|', '>', '\x27', '"', '%', '@', '\x60']

/-- Whether a plain scalar begins with a character before a text. -/
def beginsPlain (flow : Bool) (c : Char) (rest : List Char) : Bool :=
  !(isSpace c || indicators.contains c)
    || (c == '-' && !(rest.head?.any isBlank))
    || (!flow && (c == '?' || c == ':') && !endsWord rest)

def token (l : Lexer) (c : Char) (rest : List Char) : Except Error Lexer :=
  let flow := l.inFlow
  if l.cursor.column == 0 && c == '%' then l.directive
  else if l.cursor.atDocumentStart then l.documentMark .documentStart
  else if l.cursor.atDocumentEnd then l.documentMark .documentEnd
  else if c == '[' then l.enterFlow .flowSequence
  else if c == '\x7b' then l.enterFlow .flowMapping
  else if c == ']' then l.leaveFlow .flowSequenceEnd
  else if c == '\x7d' then l.leaveFlow .flowMappingEnd
  else if c == ',' then l.take .flowEntry 1 true
  else if c == '-' && endsWord rest then l.entry
  else if c == '?' && (flow || endsWord rest) then l.explicitKey
  else if c == ':' && (flow || endsWord rest) then l.value
  else if c == '*' then l.node fun c => Anchor.scan .alias (c.advance 1)
  else if c == '&' then l.node fun c => Anchor.scan .anchor (c.advance 1)
  else if c == '!' then l.node (Tag.scan flow)
  else if (c == '|' || c == '>') && !flow then l.block
  else if c == '\x27' then l.quoted .single
  else if c == '"' then l.quoted .double
  else if beginsPlain flow c rest then l.plain
  else .error .token

/-- The mark that a line may begin with. It takes a column, though nobody sees it. -/
def orderMark : Char := Char.ofNat 0xFEFF

/-- The place after the mark that a line may begin with. -/
def afterMark (c : Cursor) : Cursor :=
  if c.column == 0 && c.rest.head? == some orderMark then c.advance 1 else c

/-- Passes over blanks and comments up to the next token, at most so many lines. After a break outside
flow collections a key may begin, and where one may begin no tab may stand. -/
def toNext (l : Lexer) : Nat → Lexer
  | 0 => l
  | steps + 1 =>
    let c := (afterMark l.cursor).skip fun x => x == ' ' || (x == '\t' && (l.inFlow || !l.keyAllowed))
    let c := if c.rest.head? == some '#' then c.skip fun _ => true else c
    let l := { l with cursor := c }
    if c.rest.head?.any isBreak then
      toNext { l with cursor := c.advanceLine, keyAllowed := l.keyAllowed || !l.inFlow } steps
    else l

def next (l : Lexer) : Except Error (Option Lexer) := do
  let l ← (l.toNext (l.cursor.rest.length + 1)).expireKeys
  match l.cursor.rest with
  | [] => return none
  | c :: rest => return some (← (l.close (some l.cursor.column)).token c rest)

def finish (l : Lexer) : Except Error Lexer :=
  (l.close none).dropKey

/-- The number of tokens of which it is known that no key begins with them, or that one does. -/
def settled (l : Lexer) : Nat :=
  l.levels.foldl (fun n k => match k with
    | some k => if k.isFar l.cursor then n else min n k.tokens
    | none => n) l.tokens.size

/-- The tokens when the scan cannot go on: those that are settled, and the error. -/
def broken (l : Lexer) (e : Error) : Array Token :=
  (l.tokens.take l.settled).push (.invalid e)

/-- The tokens of the rest of a text, taken in at most so many steps. -/
def run (l : Lexer) : Nat → Array Token
  | 0 => l.tokens
  | steps + 1 =>
    match l.next with
    | .error e => l.broken e
    | .ok (some l) => run l steps
    | .ok none =>
      match l.finish with
      | .error e => l.broken e
      | .ok l => l.tokens

end Lexer

def Token.ofText (text : String) : List Token :=
  if text.toList.all isAllowed then
    (Lexer.run { cursor := { rest := uniform text.toList } } (text.length + 1)).toList
  else [.invalid .control]

end Yaml

end Reconciliation
