import Reconciliation.Text.Digits
import Reconciliation.Yaml.Scalar.Folding
/-!
# Block scalars

A block scalar is the indented lines below its header. The header says whether lines are kept or folded,
what becomes of the breaks at the end, and, if it must be said, by how much the lines are indented;
otherwise the first line that is not blank decides.
-/

namespace Reconciliation

namespace Yaml

namespace Block

/-- What becomes of the breaks at the end of a scalar. -/
inductive Chomping where
  | strip
  | clip
  | keep
  deriving DecidableEq

structure Header where
  folded : Bool
  chomping : Chomping := .clip
  indent : Option Nat := none

def chomping? : Char → Option Chomping
  | '+' => some .keep
  | '-' => some .strip
  | _ => none

/-- Reads the indication of an indent, which is one digit other than zero. -/
def indent? (h : Header) (c : Cursor) : Except Error (Header × Cursor) :=
  match c.rest with
  | d :: _ =>
    if !d.isDigit then .ok (h, c)
    else if d = '0' then .error .blockHeader
    else .ok ({ h with indent := some (Text.digitValue d) }, c.advance 1)
  | [] => .ok (h, c)

def chomp (h : Header) (c : Cursor) : Header × Cursor :=
  match c.rest.head?.bind chomping? with
  | some k => ({ h with chomping := k }, c.advance 1)
  | none => (h, c)

/-- Reads a header after its indicator: the two indications in any order, and nothing else but a
comment. -/
def header (folded : Bool) (c : Cursor) : Except Error (Header × Cursor) := do
  let (h, c) ← match c.rest.head?.bind chomping? with
    | some k => indent? ⟨folded, k, none⟩ (c.advance 1)
    | none => do
      let (h, c') ← indent? ⟨folded, .clip, none⟩ c
      pure (if h.indent.isSome then chomp h c' else (h, c'))
  let c := c.skip isBlank
  let c := if c.rest.head? == some '#' then c.skip fun _ => true else c
  if !endsWord c.rest then throw .blockHeader
  return (h, if c.rest.isEmpty then c else c.advanceLine)

/-- Blank lines: their breaks, how far blanks reached, and the place after them. -/
structure Breaks where
  breaks : List Char
  reached : Nat
  next : Cursor

/-- Passes over at most so many blank lines and the indentation of the line after them. An indent that is
not known yet takes all blanks. -/
def passBreaks (indent : Option Nat) (b : Breaks) : Nat → Except Error Breaks
  | 0 => .ok b
  | steps + 1 =>
    let limit := match indent with
      | some n => n - b.next.column
      | none => b.next.rest.length
    let spaces := ((b.next.rest.take limit).takeWhile (· == ' ')).length
    let c := b.next.advance spaces
    let reached := max b.reached c.column
    if (indent.all fun n => c.column < n) && c.rest.head? == some '\t' then .error .tab
    else match c.rest with
      | x :: _ =>
        if isBreak x then passBreaks indent ⟨b.breaks ++ [x], reached, c.advanceLine⟩ steps
        else .ok ⟨b.breaks, reached, c⟩
      | [] => .ok ⟨b.breaks, reached, c⟩

def breaksAt (indent : Option Nat) (c : Cursor) : Except Error Breaks :=
  passBreaks indent ⟨[], 0, c⟩ (c.rest.length + 1)

/-- What was scanned of a scalar: its text without the last break, that break, the further breaks, and
whether the last line began with a blank. -/
structure State where
  text : List Char := []
  last : List Char := []
  more : List Char
  indented : Bool := false

/-- The text before a next line. Between folded lines that are not indented further a single break
becomes a space. -/
def State.joined (folded : Bool) (st : State) (indented : Bool) : List Char :=
  if folded && st.last == ['\n'] && !st.indented && !indented then
    st.text ++ (if st.more.isEmpty then [' '] else st.more)
  else st.text ++ st.last ++ st.more

def lines (folded : Bool) (indent : Nat) (st : State) (c : Cursor) :
    Nat → Except Error (State × Cursor)
  | 0 => .ok (st, c)
  | steps + 1 => do
    if c.column != indent || c.rest.isEmpty then return (st, c)
    let indented := c.rest.head?.any isBlank
    let (line, c) := c.span fun _ => true
    let b ← breaksAt (some indent) c.next
    lines folded indent ⟨st.joined folded indented ++ line, c.rest.take 1, b.breaks, indented⟩ b.next
      steps

def State.chomped (st : State) : Chomping → List Char
  | .strip => st.text
  | .clip => st.text ++ st.last
  | .keep => st.text ++ st.last ++ st.more

/-- Scans a block scalar from its indicator on. The enclosing collection is indented to the column before
the given one. -/
def scan (column : Nat) (c : Cursor) : Except Error (List Char × Cursor) := do
  let (h, c) ← header (c.rest.head? == some '>') (c.advance 1)
  let known := h.indent.map (· + (column - 1))
  let b ← breaksAt known c
  let indent := known.getD (max b.reached (max column 1))
  let (st, c) ← lines h.folded indent ⟨[], [], b.breaks, false⟩ b.next (c.rest.length + 1)
  return (st.chomped h.chomping, c)

end Block

end Yaml

end Reconciliation
