import Reconciliation.Text.Alphanumeric
import Reconciliation.Text.Blank
import Reconciliation.Text.Digits
/-!
# Patterns

A pattern is a regular expression that a field's value may be asked to match. A filter keeps its text; what
counts here is whether it is one: groups and sets are closed, what is repeated is there, escapes and flags
are known. Patterns are matched against text by a deterministic automaton, so there is no looking around and
no backreference, words end by the rules of ASCII only, and nothing may match a part of a character: while
the flag `u` is off, what stands for characters beyond ASCII is refused.

Counted repetitions and names between braces are not read: a field ends at a closing brace.
-/

namespace Reconciliation

namespace Pattern

/-- How a part of a pattern is read: whether it knows characters beyond ASCII, and whether blanks and remarks
between its parts do not count. -/
structure Mode where
  unicode : Bool := true
  verbose : Bool := false
  deriving DecidableEq, Repr

/-- Drops blanks and remarks, which go from a number sign to the end of the line. -/
def dropRemarks : Bool → List Char → List Char
  | _, [] => []
  | true, c :: rest => dropRemarks (c != '\n') rest
  | false, c :: rest =>
    if Text.isBlank c then dropRemarks false rest
    else if c == '#' then dropRemarks true rest
    else c :: rest

/-- Drops what does not count. -/
def Mode.skip (m : Mode) (s : List Char) : List Char :=
  if m.verbose then dropRemarks false s else s

/-! ### Flags -/

def flagLetters : List Char := ['i', 'm', 's', 'U', 'u', 'R', 'x']

/-- Whether a text sets flags: each at most once, and before or after a single minus sign. -/
def areFlags (fs : List Char) : Bool :=
  fs.all (fun f => f == '-' || flagLetters.contains f) && fs.eraseDups.length == fs.length
    && fs.getLast? != some '-'

/-- What a text sets a flag to, or else what it was. -/
def setting (fs : List Char) (f : Char) (before : Bool) : Bool :=
  if fs.contains f then (fs.takeWhile (· != '-')).contains f else before

def Mode.set (m : Mode) (fs : List Char) : Mode :=
  { unicode := setting fs 'u' m.unicode, verbose := setting fs 'x' m.verbose }

/-! ### Escapes -/

inductive Escape where
  | literal (c : Char)
  | set
  | assertion
  deriving DecidableEq, Repr

def hexDigits? (m : Mode) : Nat → List Char → Option (List Char × List Char)
  | 0, s => some ([], s)
  | n + 1, s =>
    match m.skip s with
    | [] => none
    | c :: rest =>
      if (Text.hexValue? c).isSome then (hexDigits? m n rest).map fun r => (c :: r.1, r.2) else none

/-- Reads the number of a character, in so many digits. Without Unicode, two digits are an octet, which is a
character in ASCII only. -/
def numbered? (m : Mode) (digits : Nat) (s : List Char) : Option (Escape × List Char) := do
  let (ds, rest) ← hexDigits? m digits s
  let n ← Text.radixValue? 16 ds
  if !n.isValidChar || (digits == 2 && !m.unicode && 0x80 ≤ n) then none
  else return (.literal (Char.ofNat n), rest)

def category? (m : Mode) (s : List Char) : Option (Escape × List Char) :=
  match m.skip s with
  | c :: rest =>
    if m.unicode && ['c', 'l', 'm', 'n', 'p', 's', 'z'].contains c.toLower then some (.set, rest) else none
  | [] => none

/-- Whether a character may stand for itself after a backslash. -/
def isEscapable (c : Char) : Bool :=
  c.toNat < 0x80 && !c.isAlphanum && c != '<' && c != '>'

def escape? (m : Mode) : List Char → Option (Escape × List Char)
  | [] => none
  | c :: rest =>
    match c with
    | 'x' => numbered? m 2 rest
    | 'u' => numbered? m 4 rest
    | 'U' => numbered? m 8 rest
    | 'p' | 'P' => category? m rest
    | 'd' | 's' | 'w' => some (.set, rest)
    | 'D' | 'S' | 'W' => if m.unicode then some (.set, rest) else none
    | 'a' => some (.literal '\x07', rest)
    | 'f' => some (.literal '\x0c', rest)
    | 't' => some (.literal '\t', rest)
    | 'n' => some (.literal '\n', rest)
    | 'r' => some (.literal '\r', rest)
    | 'v' => some (.literal '\x0b', rest)
    | 'A' | 'z' => some (.assertion, rest)
    | 'b' | 'B' | '<' | '>' => if m.unicode then none else some (.assertion, rest)
    | c => if isEscapable c then some (.literal c, rest) else none

/-! ### Sets -/

def setNames : List String := [
  "alnum", "alpha", "ascii", "blank", "cntrl", "digit", "graph", "lower", "print", "punct", "space", "upper",
  "word", "xdigit"]

/-- Reads a named set inside of another: whether it is allowed, and what follows. -/
def named? (m : Mode) : List Char → Option (Bool × List Char)
  | '[' :: ':' :: rest =>
    let negated := rest.head? == some '^'
    let rest := if negated then rest.drop 1 else rest
    let name := rest.takeWhile (· != ':')
    match rest.drop name.length with
    | ':' :: ']' :: after =>
      if setNames.contains (String.ofList name) then some (m.unicode || !negated, after) else none
    | _ => none
  | _ => none

/-- Drops the sign that negates a set. Without Unicode there is no negated set. -/
def negation? (m : Mode) (s : List Char) : Option (List Char) :=
  match m.skip s with
  | '^' :: rest => if m.unicode then some rest else none
  | rest => some rest

/-- Reads a member of a set, which is no assertion. -/
def member? (m : Mode) : List Char → Option (Escape × List Char)
  | [] => none
  | c :: rest => do
    let (e, rest) ← if c == '\\' then escape? m rest else some (.literal c, rest)
    match e with
    | .assertion => none
    | .literal c => if m.unicode || c.toNat < 0x80 then return (e, rest) else none
    | .set => return (e, rest)

/-- Reads a member of a set, or a range of characters that is not empty. -/
def range? (m : Mode) (s : List Char) : Option (List Char) := do
  let (low, rest) ← member? m s
  match m.skip rest with
  | '-' :: next =>
    match m.skip next with
    | ']' :: _ => return '-' :: next
    | '-' :: _ => return '-' :: next
    | next =>
      let (high, rest) ← member? m next
      match low, high with
      | .literal a, .literal b => if a ≤ b then return rest else none
      | _, _ => none
  | rest => return rest

/-- How far a set is: nothing of it was read, or only dashes, or more. -/
inductive Progress where
  | first
  | dashes
  | later
  deriving DecidableEq, Repr

/-- Reads the rest of a set inside of so many others, in at most so many steps. A bracket that would close a
set with nothing in it is a member of it, and so are dashes at its beginning. -/
def set? (m : Mode) : Nat → Nat → Progress → List Char → Option (List Char)
  | 0, _, _, _ => none
  | steps + 1, around, p, s =>
    match m.skip s with
    | [] => none
    | ']' :: rest =>
      if p = .first then set? m steps around .later rest
      else if around = 0 then some rest
      else set? m steps (around - 1) .later rest
    | '-' :: rest =>
      if p = .later then
        match rest with
        | '-' :: rest => set? m steps around .later rest
        | _ => (range? m ('-' :: rest)).bind (set? m steps around .later)
      else set? m steps around .dashes rest
    | '&' :: '&' :: rest => set? m steps around .later rest
    | '~' :: '~' :: rest => set? m steps around .later rest
    | '[' :: rest =>
      match named? m ('[' :: rest) with
      | some (allowed, after) => if allowed then set? m steps around .later after else none
      | none => (negation? m rest).bind (set? m steps (around + 1) .first)
    | s => (range? m s).bind (set? m steps around .later)

/-! ### Groups -/

/-- Where reading stands: the mode, the modes of the groups around, the names of groups, and whether there
is something to repeat. -/
structure State where
  mode : Mode := {}
  around : List Mode := []
  names : List String := []
  repeatable : Bool := false

def State.opened (st : State) (inside : Mode) : State :=
  { st with mode := inside, around := st.mode :: st.around, repeatable := false }

/-- Whether a text is a name, which does not begin with a digit. -/
def isName : List Char → Bool
  | [] => false
  | c :: cs =>
    let isSymbol (c : Char) : Bool := c == '_' || Text.isAlphanumeric c
    isSymbol c && !c.isDigit && cs.all fun c => isSymbol c || ['.', '[', ']'].contains c

/-- Enters a group with a name, which no other group has. -/
def State.name? (st : State) (s : List Char) : Option (State × List Char) :=
  let cs := s.takeWhile (· != '>')
  let name := String.ofList cs
  match s.drop cs.length with
  | '>' :: rest =>
    if isName cs && !st.names.contains name then
      some ({ st.opened st.mode with names := name :: st.names }, rest)
    else none
  | _ => none

/-- Sets flags, for a group of their own or for what is left of the group around. -/
def State.flags? (st : State) (s : List Char) : Option (State × List Char) :=
  let fs := s.takeWhile fun c => c != ':' && c != ')'
  let mode := st.mode.set fs
  if !areFlags fs then none
  else match s.drop fs.length with
    | ':' :: rest => some (st.opened mode, rest)
    | ')' :: rest => if fs.isEmpty then none else some ({ st with mode := mode, repeatable := false }, rest)
    | _ => none

def State.group? (st : State) (s : List Char) : Option (State × List Char) :=
  match st.mode.skip s with
  | '?' :: 'P' :: '<' :: rest => st.name? rest
  | '?' :: '<' :: rest => st.name? rest
  | '?' :: rest => st.flags? rest
  | rest => some (st.opened st.mode, rest)

/-! ### Whole patterns -/

def State.part? (st : State) (c : Char) (rest : List Char) : Option (State × List Char) :=
  let present := { st with repeatable := true }
  match c with
  | '(' => st.group? rest
  | ')' =>
    match st.around with
    | [] => none
    | m :: around => some ({ present with mode := m, around := around }, rest)
  | '|' => some ({ st with repeatable := false }, rest)
  | '[' =>
    ((negation? st.mode rest).bind (set? st.mode (rest.length + 1) 0 .first)).map (present, ·)
  | '?' | '*' | '+' =>
    if st.repeatable then some (st, if rest.head? == some '?' then rest.drop 1 else rest) else none
  | '\x7b' => none
  | '\\' => (escape? st.mode rest).map fun r => (present, r.2)
  | '.' => if st.mode.unicode then some (present, rest) else none
  | _ => some (present, rest)

/-- Whether the rest of a pattern is well formed, found in at most so many steps. -/
def State.accepts : Nat → State → List Char → Bool
  | 0, _, _ => false
  | steps + 1, st, s =>
    match st.mode.skip s with
    | [] => st.around.isEmpty
    | c :: rest =>
      match st.part? c rest with
      | some (st, rest) => accepts steps st rest
      | none => false

def isWellFormed (s : String) : Bool :=
  State.accepts (s.length + 1) {} s.toList

end Pattern

end Reconciliation
