import Reconciliation.Template.Operand
/-!
# Tags of a template

A template is text with tags between double braces. A backslash before the braces makes them text, and of
several backslashes before a tag one is dropped. A tilde inside the braces trims the text on that side.

Here a source is cut into its texts and tags; which tags belong together is found out afterwards.
-/

namespace Reconciliation

namespace Template

/-- The beginning of a block: a helper, what it is handed, and names for the values of the block. -/
structure Head where
  helper : String
  arguments : Arguments := {}
  names : List String := []
  deriving Inhabited

/-- What names a partial: a word, or the value of an operand. -/
inductive PartialName where
  | word (name : String)
  | operand (o : Operand)
  deriving Inhabited

/-- A tag. -/
inductive Tag where
  | output (o : Operand)
  | call (helper : String) (arguments : Arguments)
  | comment
  | block (head : Head)
  | alternative (head : Option Head)
  | close (name : String)
  | decorator (head : Head)
  | decoratorBlock (head : Head)
  | insertion (name : PartialName) (arguments : Arguments)
  | insertionBlock (name : PartialName) (arguments : Arguments)
  deriving Inhabited

/-- A tag and the sides on which it trims the text. -/
structure Marked where
  tag : Tag
  trimsBefore : Bool := false
  trimsAfter : Bool := false
  deriving Inhabited

/-- A text, as it is written and as it reads, and the tag after it. -/
structure Piece where
  source : List Char
  text : List Char
  tag : Option Marked
  deriving Inhabited

/-! ### Texts -/

/-- Whether braces begin here. -/
def opens : List Char → Bool
  | '\x7b' :: '\x7b' :: _ => true
  | _ => false

/-- Whether four braces begin here. -/
def opensRaw (s : List Char) : Bool :=
  opens s && opens (s.drop 2)

/-- The text at the head of a source, up to a place where it stops: how many characters it takes, at most
the first number in steps, and how it reads. -/
def scanText (stops : List Char → Bool) : Nat → List Char → Nat × List Char
  | 0, _ => (0, [])
  | _, [] => (0, [])
  | steps + 1, '\\' :: rest =>
    let more := (rest.takeWhile (· == '\\')).length
    if opens (rest.drop more) && more ≥ 1 then
      let (n, t) := continued stops steps (rest.drop more)
      (n + more + 1, List.replicate more '\\' ++ t)
    else if opens rest then
      let braces := if opens (rest.drop 2) then 4 else 2
      let (n, t) := scanText stops steps (rest.drop braces)
      (n + braces + 1, rest.take braces ++ t)
    else
      let (n, t) := scanText stops steps rest
      (n + 1, '\\' :: t)
  | steps + 1, c :: rest =>
    if stops (c :: rest) then (0, [])
    else
      let (n, t) := scanText stops steps rest
      (n + 1, c :: t)
where
  /-- Goes on after backslashes, of which one was dropped. -/
  continued (stops : List Char → Bool) (steps : Nat) (s : List Char) : Nat × List Char :=
    if stops s then (0, []) else scanText stops steps s

/-! ### Tags -/

/-- A bound for the steps in which a text is read. -/
def bound (s : List Char) : Nat :=
  4 * s.length + 8

def tilde (s : List Char) : Bool × List Char :=
  match skipGap s with
  | '~' :: rest => (true, skipGap rest)
  | s => (false, s)

def drop? (w : String) (s : List Char) : Option (List Char) :=
  if s.take w.length == w.toList then some (s.drop w.length) else none

/-- Reads the end of a tag: whether it trims the text after it, and what follows. -/
def end? (closing : String) (s : List Char) : Option (Bool × List Char) :=
  let (trims, s) := tilde s
  (drop? closing s).map (trims, ·)

def blockNames? (s : List Char) : Option (List String × List Char) := do
  let s ← drop? "|" (skipGap (← drop? "as" s))
  let (first, s) ← helperName? (skipGap s)
  let (names, s) := match helperName? (skipGap s) with
    | some (second, s) => ([first, second], s)
    | none => ([first], s)
  return (names, ← drop? "|" (skipGap s))

def head? (s : List Char) : Option (Head × List Char) := do
  let (helper, s) ← helperName? s
  let (a, s) := arguments (bound s) s
  match blockNames? (skipGap s) with
  | some (names, s) => some (⟨helper, a, names⟩, s)
  | none => some (⟨helper, a, []⟩, s)

/-- Reads an operand that is given out: a path, or a helper in parentheses. -/
def output? (s : List Char) : Option (Tag × List Char) :=
  (nested? (bound s) s <|> pathOperand? s).map fun r => (.output r.1, r.2)

/-- Reads what a tag gives out: the result of a helper, or an operand. -/
def expression? (s : List Char) : Option (Tag × List Char) :=
  match helperName? s with
  | some (name, rest) =>
    let (a, rest) := arguments (bound rest) rest
    if a.isEmpty then output? s else some (.call name a, rest)
  | none => output? s

def isPartialSymbol (c : Char) : Bool :=
  isSymbol c || ['/', '.', '@'].contains c

/-- The number of characters before the single quote that ends a text, which a backslash keeps from ending
it. -/
def quotedWidth : List Char → Nat
  | '\\' :: '\x27' :: rest => quotedWidth rest + 2
  | '\x27' :: _ => 0
  | _ :: rest => quotedWidth rest + 1
  | [] => 0

/-- Reads the word for a partial. The quotes around a word are a part of it. -/
def partialWord? (s : List Char) : Option (String × List Char) :=
  match s with
  | '\x27' :: rest =>
    let n := quotedWidth rest
    if n != 0 && (rest.drop n).head? == some '\x27' then
      some (String.ofList (s.take (n + 2)), s.drop (n + 2))
    else none
  | s => word? isPartialSymbol s

def partialName? (s : List Char) : Option (PartialName × List Char) :=
  match partialWord? s with
  | some (w, rest) => some (.word w, rest)
  | none =>
    (nested? (bound s) s <|> pathOperand? s).map fun r =>
      (match r.1 with
        | .path text _ => .word text
        | o => .operand o, r.2)

def insertion? (s : List Char) : Option ((PartialName × Arguments) × List Char) := do
  let (name, s) ← partialName? s
  let (a, s) := arguments (bound s) s
  return ((name, a), s)

/-- Reads the alternative of a block: the last one, or one with a helper of its own. The name of the helper
may stand right after the word, so `elseif` is an alternative too. -/
def alternative? (s : List Char) : Option (Tag × List Char) := do
  let rest ← match s with
    | '^' :: rest => some rest
    | s => drop? "else" s
  match end? "\x7d\x7d" rest with
  | some _ => some (.alternative none, rest)
  | none =>
    let (h, after) ← head? (skipGap rest)
    let _ ← end? "\x7d\x7d" after
    return (.alternative (some h), after)

/-- Reads a tag after its braces and up to the closing ones. -/
def tag? (s : List Char) : Option (Tag × List Char) :=
  match s with
  | '#' :: rest =>
    match skipGap rest with
    | '*' :: rest => (head? (skipGap rest)).map fun r => (.decoratorBlock r.1, r.2)
    | '>' :: rest =>
      (insertion? (skipGap rest)).map fun r => (.insertionBlock r.1.1 r.1.2, r.2)
    | rest => (head? rest).map fun r => (.block r.1, r.2)
  | '/' :: rest =>
    match partialWord? (skipGap rest) with
    | some (name, rest) => some (.close name, rest)
    | none => some (.close "", rest)
  | '>' :: rest => (insertion? (skipGap rest)).map fun r => (.insertion r.1.1 r.1.2, r.2)
  | '*' :: rest => (head? (skipGap rest)).map fun r => (.decorator r.1, r.2)
  | '&' :: rest => output? (skipGap rest)
  | s => alternative? s <|> expression? s

/-- Drops what is before a text, and the text. -/
def dropThrough? (w : String) : List Char → Option (List Char)
  | [] => none
  | c :: rest =>
    match drop? w (c :: rest) with
    | some after => some after
    | none => dropThrough? w rest

/-- Reads a comment after its braces: one between dashes, or one up to the next closing braces. -/
def comment? : List Char → Option (List Char)
  | '!' :: rest =>
    ((drop? "--" (skipGap rest)).bind (dropThrough? "--\x7d\x7d")) <|> dropThrough? "\x7d\x7d" rest
  | _ => none

/-- Reads a tag with a third brace, inside the other two or next to them. -/
def braced? (s : List Char) : Option (Marked × List Char) :=
  outer? s <|> inner? s
where
  /-- Three braces on both sides. -/
  outer? (s : List Char) : Option (Marked × List Char) := do
    let (before, s) := tilde (← drop? "\x7b" s)
    let (t, s) ← expression? s
    let (after, s) ← end? "\x7d\x7d\x7d" s
    return (⟨t, before, after⟩, s)
  /-- A brace inside of two. -/
  inner? (s : List Char) : Option (Marked × List Char) := do
    let (before, s) := tilde s
    let (t, s) ← expression? (skipGap (← drop? "\x7b" s))
    let (after, s) ← end? "\x7d\x7d" (← drop? "\x7d" (skipGap s))
    return (⟨t, before, after⟩, s)

/-- Reads a tag after its two braces, up to the end of its closing braces. -/
def marked? (s : List Char) : Option (Marked × List Char) :=
  match comment? s with
  | some rest => some (⟨.comment, false, false⟩, rest)
  | none =>
    let (before, inside) := tilde s
    if inside.head? == some '\x7b' then braced? s
    else do
      let (t, rest) ← tag? inside
      let (after, rest) ← end? "\x7d\x7d" rest
      return (⟨t, before, after⟩, rest)

/-- Reads a raw block: its beginning, its text with its end, and what follows. In the text only four
braces are a tag. -/
def raw? (s : List Char) : Option (Marked × Piece × List Char) := do
  let (before, s) := tilde (s.drop 4)
  let (h, s) ← head? s
  let (after, s) ← end? "\x7d\x7d\x7d\x7d" s
  let s := skipGap s
  let (n, t) := scanText opensRaw s.length s
  let source := s.take n
  let (before', s) := tilde (← drop? "\x7b\x7b\x7b\x7b" (s.drop n))
  let (name, s) ← helperName? (skipGap (← drop? "/" s))
  let (after', s) ← end? "\x7d\x7d\x7d\x7d" s
  return (⟨.block h, before, after⟩, ⟨source, t, some ⟨.close name, before', after'⟩⟩, s)

/-- Cuts a source into pieces, in at most so many steps. -/
def pieces? : Nat → List Char → Option (List Piece)
  | 0, _ => none
  | steps + 1, s =>
    let (n, t) := scanText opens s.length s
    let source := s.take n
    match s.drop n with
    | [] => some [⟨source, t, none⟩]
    | rest =>
      if opensRaw rest then do
        let (start, inside, after) ← raw? rest
        let more ← pieces? steps after
        return ⟨source, t, some start⟩ :: inside :: more
      else do
        let (m, after) ← marked? (rest.drop 2)
        let more ← pieces? steps after
        return ⟨source, t, some m⟩ :: more

end Template

end Reconciliation
