import Reconciliation.Json.Reader
import Reconciliation.Template.Path
/-!
# Operands

What a tag names or hands to a helper: a literal, a path or the result of another helper. Literals are
JSON, and a text may also stand between single quotes. A word that begins like a literal but goes on is a
path, so `nullable` and `1a` are paths; a literal that JSON does not allow, such as `01`, is an error.
-/

namespace Reconciliation

namespace Template

/-- An operand. A path keeps its text. -/
inductive Operand where
  | literal (value : Json)
  | path (text : String) (path : Path)
  | call (helper : String) (operands : List Operand) (options : List (String × Operand))
  deriving Inhabited

/-- What a helper is handed: operands by place and options by name. -/
structure Arguments where
  operands : List Operand := []
  options : Table Operand := []
  deriving Inhabited

def Arguments.isEmpty (a : Arguments) : Bool :=
  a.operands.isEmpty && a.options.isEmpty

/-! ### Literals -/

namespace Literal

/-- A text is passed over: how many characters it takes. -/
abbrev Width : Type := Option Nat

/-- The width of what is between a quote and the next such quote, that one included. -/
def quoted (quote : Char) : Nat → List Char → Width
  | 0, _ => none
  | _, [] => none
  | _, ['\\'] => none
  | steps + 1, '\\' :: c :: rest =>
    if c == 'u' then
      if (Text.radixValue? 16 (rest.take 4)).isSome && 4 ≤ rest.length then
        (quoted quote steps (rest.drop 4)).map (· + 6)
      else none
    else if c == quote || ['\\', '/', 'b', 'f', 'n', 'r', 't'].contains c then
      (quoted quote steps rest).map (· + 2)
    else none
  | steps + 1, c :: rest => if c == quote then some 1 else (quoted quote steps rest).map (· + 1)

def string : List Char → Width
  | '"' :: rest => (quoted '"' (rest.length + 1) rest).map (· + 1)
  | '\x27' :: rest => (quoted '\x27' (rest.length + 1) rest).map (· + 1)
  | _ => none

/-- The width of a word that does not go on. -/
def keyword (w : String) (s : List Char) : Width :=
  let n := w.length
  if s.take n == w.toList && !(s.drop n).head?.any isSymbol then some n else none

/-- The width of a number. An exponent is marked by a capital letter. -/
def number (s : List Char) : Width :=
  let sign := if s.head? == some '-' then 1 else 0
  let whole := ((s.drop sign).takeWhile Char.isDigit).length
  let n := sign + whole
  let n := if (s.drop n).head? == some '.' then n + 1 else n
  let n := n + ((s.drop n).takeWhile Char.isDigit).length
  let n := match s.drop n with
    | 'E' :: rest =>
      let sign := if rest.head? == some '-' then 1 else 0
      let ds := ((rest.drop sign).takeWhile Char.isDigit).length
      if ds = 0 then n else n + 1 + sign + ds
    | _ => n
  if whole = 0 || (s.drop n).head?.any isSymbol then none else some n

/-- The number of characters between words at the head of a text. -/
def gap (s : List Char) : Nat :=
  (s.takeWhile isGap).length

mutual

/-- The width of a literal, found in at most so many steps. -/
def any : Nat → List Char → Width
  | 0, _ => none
  | steps + 1, s =>
    match s with
    | '[' :: rest => (items steps true rest).map (· + 1)
    | '\x7b' :: rest => (fields steps true rest).map (· + 1)
    | s =>
      string s <|> number s <|> keyword "null" s <|> keyword "true" s <|> keyword "false" s

/-- The width of the items of an array up to its end. -/
def items : Nat → Bool → List Char → Width
  | 0, _, _ => none
  | steps + 1, first, s =>
    let g := gap s
    match s.drop g with
    | ']' :: _ => some (g + 1)
    | ',' :: rest => do
      let h := gap rest
      let w ← any steps (rest.drop h)
      let n ← items steps false (rest.drop (h + w))
      return g + 1 + h + w + n
    | s =>
      if !first then none
      else do
        let w ← any steps s
        let n ← items steps false (s.drop w)
        return g + w + n

/-- The width of the fields of an object up to its end. -/
def fields : Nat → Bool → List Char → Width
  | 0, _, _ => none
  | steps + 1, first, s =>
    let g := gap s
    match s.drop g with
    | '\x7d' :: _ => some (g + 1)
    | ',' :: rest => do
      let h := gap rest
      let w ← field steps (rest.drop h)
      let n ← fields steps false (rest.drop (h + w))
      return g + 1 + h + w + n
    | s =>
      if !first then none
      else do
        let w ← field steps s
        let n ← fields steps false (s.drop w)
        return g + w + n

def field : Nat → List Char → Width
  | 0, _ => none
  | steps + 1, s => do
    let w ← string s
    let g := gap (s.drop w)
    match s.drop (w + g) with
    | ':' :: rest =>
      let h := gap rest
      let v ← any steps (rest.drop h)
      return w + g + 1 + h + v
    | _ => none

end

/-- The text between single quotes as it stands between double quotes. -/
def requote : List Char → List Char
  | '\\' :: '\x27' :: rest => '\x27' :: requote rest
  | '\\' :: c :: rest => '\\' :: c :: requote rest
  | '"' :: rest => '\\' :: '"' :: requote rest
  | c :: rest => c :: requote rest
  | [] => []

def value? : List Char → Option Json
  | '\x27' :: rest => Json.ofText? (String.ofList ('"' :: requote rest.dropLast ++ ['"']))
  | s => Json.ofText? (String.ofList s)

end Literal

/-! ### Reading operands -/

def helperName? (s : List Char) : Option (String × List Char) :=
  word? isSymbol s

/-- Whether a text begins with a word that is no operand: `as` or `else`, unless another word follows. -/
def beginsReserved (s : List Char) : Bool :=
  ["as", "else"].any fun w =>
    s.take w.length == w.toList && !(skipGap (s.drop w.length)).head?.any isSymbol

def pathOperand? (s : List Char) : Option (Operand × List Char) :=
  (Path.read? s).map fun r => (.path r.1 r.2.1, r.2.2)

mutual

/-- Reads an operand, in at most so many steps. -/
def operand? : Nat → List Char → Option (Operand × List Char)
  | 0, _ => none
  | steps + 1, s =>
    if beginsReserved s then none
    else match Literal.any (s.length + 1) s with
      | some w => (Literal.value? (s.take w)).map fun j => (.literal j, s.drop w)
      | none => pathOperand? s <|> nested? steps s

def nested? : Nat → List Char → Option (Operand × List Char)
  | 0, _ => none
  | steps + 1, s =>
    match s with
    | '(' :: rest => do
      let s := skipGap rest
      let (o, s) ← applied? steps s <|> (Path.read? s).map fun r => (.call r.1 [] [], r.2.2)
      match skipGap s with
      | ')' :: rest => some (o, rest)
      | _ => none
    | _ => none

def applied? : Nat → List Char → Option (Operand × List Char)
  | 0, _ => none
  | steps + 1, s => do
    let (name, s) ← helperName? s
    let (a, s) := arguments steps s
    if a.isEmpty then none else return (.call name a.operands a.options, s)

def option? : Nat → List Char → Option ((String × Operand) × List Char)
  | 0, _ => none
  | steps + 1, s => do
    let (name, s) ← helperName? s
    match skipGap s with
    | '=' :: rest =>
      let (o, rest) ← operand? steps (skipGap rest)
      return ((name, o), rest)
    | _ => none

/-- Reads operands and options as long as there are any. -/
def arguments : Nat → List Char → Arguments × List Char
  | 0, s => ({}, s)
  | steps + 1, s =>
    match option? steps (skipGap s) with
    | some ((name, o), rest) =>
      let (a, rest) := arguments steps rest
      ({ a with options := a.options.insertNew name o }, rest)
    | none =>
      match operand? steps (skipGap s) with
      | some (o, rest) =>
        let (a, rest) := arguments steps rest
        ({ a with operands := o :: a.operands }, rest)
      | none => ({}, s)

end

end Template

end Reconciliation
