import Reconciliation.Logging.Field
import Reconciliation.Logging.Level
import Reconciliation.Text.Alphanumeric
import Reconciliation.Text.Blank
/-!
# Filter directives

A directive sets the verbosity of what it selects: everything, the entries of a target, or what happens
in a span or with a field. It is written `target[span{field=value}]=level`, and each part may be left
out. A word alone is a level if it names one, or else a target with full verbosity.

Blanks around a directive do not count for its shape, but its parts are cut out of the text with them.
-/

namespace Reconciliation

/-- The verbosity of a selection. -/
structure Directive where
  target : Option String := none
  span : Option String := none
  field : Option FieldPattern := none
  level : Verbosity
  deriving DecidableEq, Repr

namespace Directive

/-! ### Reading -/

def startsWord (c : Char) : Bool :=
  Text.isAlphanumeric c || c == '-' || c == ':' || c == '_'

def part (text : List Char) (first last : Nat) : String :=
  String.ofList ((text.drop first).take (last - first))

/-- The place of the first of some characters, from a place on, with the rest of the text from there. -/
def upTo (stops : List Char) (place : Nat) (cs : List Char) : Nat × List Char :=
  let n := (cs.takeWhile (!stops.contains ·)).length
  (place + n, cs.drop n)

/-- Sets the level that is written at the end of a text; nothing there is full verbosity. -/
def levelPart? (text : List Char) (place : Nat) (d : Directive) : Option Directive :=
  let level := String.ofList (text.drop place)
  if level.isEmpty then some { d with level := .full }
  else (Verbosity.ofText? level).map fun v => { d with level := v }

/-- Reads what follows a span: a level, or nothing. -/
def afterSpan? (text : List Char) (place : Nat) (rest : List Char) (d : Directive) : Option Directive :=
  match rest with
  | [] => some d
  | '=' :: _ => levelPart? text (place + 1) d
  | _ => none

def spanPart? (text : List Char) (place : Nat) (rest : List Char) (d : Directive) : Option Directive :=
  let (stop, rest) := upTo [']', '\x7b'] place rest
  let span := part text place stop
  match rest with
  | ']' :: rest => afterSpan? text (stop + 1) rest { d with span := some span }
  | '\x7b' :: rest =>
    let (last, rest) := upTo ['\x7d'] (stop + 1) rest
    let field := part text (stop + 1) last
    match rest with
    | '\x7d' :: ']' :: rest =>
      if field.isEmpty then none
      else do
        let f ← FieldPattern.ofChars? field.toList
        afterSpan? text (last + 2) rest
          { d with span := if span.isEmpty then none else some span
                   field := some f }
    | _ => none
  | _ => none

def ofChars? (text : List Char) : Option Directive :=
  let shape := (Text.trim (String.ofList text)).toList
  match shape with
  | [] => none
  | '[' :: rest => spanPart? text 1 rest { level := .full }
  | c :: _ =>
    if !startsWord c then none
    else
      let (stop, rest) := upTo ['=', '['] 0 shape
      let named : Directive := { target := some (part text 0 stop), level := .full }
      match rest with
      | '=' :: _ => levelPart? text (stop + 1) named
      | '[' :: rest => spanPart? text (stop + 1) rest named
      | _ =>
        match Verbosity.ofText? (String.ofList text) with
        | some v => some { level := v }
        | none => some { target := some (String.ofList text), level := .full }

/-! ### Printing -/

def selection (d : Directive) : String :=
  d.target.getD "" ++
    (if d.span.isSome || d.field.isSome then
      "[" ++ d.span.getD "" ++ (match d.field with
        | none => ""
        | some f => "\x7b" ++ f.text ++ "\x7d") ++ "]"
    else "")

def text (d : Directive) : String :=
  (if d.target.isSome || d.span.isSome || d.field.isSome then d.selection ++ "=" else "")
    ++ d.level.name

/-! ### Order -/

/-- Whether a directive selects by what happens around an entry, and not by its target alone. -/
def isContextual (d : Directive) : Bool :=
  d.span.isSome || d.field.isSome

def hasValue (d : Directive) : Bool :=
  (d.field.bind FieldPattern.value).isSome

/-- Whether a directive can be applied to an entry without knowing what is around it. -/
def isStatic (d : Directive) : Bool :=
  d.span.isNone && !d.hasValue

/-- How specific directives are: first by the length of the target, then by whether they have a span and
a field, and at last by the texts of these. -/
def specificity (a b : Directive) : Ordering :=
  (compareOptional (fun s t : String => Ord.compare s.utf8ByteSize t.utf8ByteSize) a.target b.target).then <|
  (Ord.compare a.span.isSome b.span.isSome).then <|
  (Ord.compare a.field.isSome b.field.isSome).then <|
  (compareOptional Ord.compare a.target b.target).then <|
  (compareOptional Ord.compare a.span b.span).then <|
  compareOptional FieldPattern.compare a.field b.field

/-- Puts a directive into a list with the most specific ones first, in place of one with the same
selection. -/
def insert (d : Directive) : List Directive → List Directive
  | [] => [d]
  | e :: rest =>
    match specificity d e with
    | .eq => d :: rest
    | .gt => d :: e :: rest
    | .lt => e :: insert d rest

/-- The directives with the most specific ones first; of two with the same selection the later counts. -/
def arrange (ds : List Directive) : List Directive :=
  ds.foldl (fun sorted d => insert d sorted) []

end Directive

end Reconciliation
