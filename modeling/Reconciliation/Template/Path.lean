import Reconciliation.Json
import Reconciliation.Text.Digits
/-!
# Paths into template data

A template refers to its data by paths. A path starts at the value of the block around it, at that of a
block further out, or at the root of the data, and goes down by field names and item numbers. A marker
such as `@index` stands for where a loop is.
-/

namespace Reconciliation

namespace Template

inductive RenderError where
  | missing (path : Option String)
  | itemName (name : String)
  | unknownHelper (name : String)
  | argument (helper : String)
  | logLevel (name : String)
  | unknownPartial (name : String)
  | ownPartial
  | unknownDecorator (name : String)
  | definition
  | tooDeep
  deriving DecidableEq, Repr

namespace RenderError

def message : RenderError → String
  | missing path =>
    "Failed to access variable in strict mode " ++ match path with
      | some p => "Some(\"" ++ p ++ "\")"
      | none => "None"
  | itemName name => "Cannot access array/vector with string index, " ++ name
  | unknownHelper name => "Helper not found " ++ name
  | argument helper => "Helper/Decorator " ++ helper ++ " param at index 0 required but not found"
  | logLevel name => "Invalid logging level: " ++ name
  | unknownPartial name => "Partial not found " ++ name
  | ownPartial => "Can not include current template in partial"
  | unknownDecorator name => "Decorator not found " ++ name
  | definition => "Block content required"
  | tooDeep => "partials are nested too deep"

end RenderError

/-- Where a path starts: at the root, or at the value of a block, counted from the innermost outwards. -/
inductive Origin where
  | root
  | block (outwards : Nat)
  deriving DecidableEq, Repr

/-- A path: to a value, or to a marker of a block. -/
inductive Path where
  | value (origin : Origin) (names : List String)
  | marker (outwards : Nat) (name : String)
  deriving DecidableEq, Repr

/-- What a block sees: its value, its markers and the names that it gave to values. -/
structure Scope where
  value : Json
  markers : Table Json := []
  names : Table Json := []
  deriving Inhabited

/-- Goes down from a value by names. An item of an array must be named by its number. -/
def follow : Option Json → List String → Except RenderError (Option Json)
  | j, [] => .ok j
  | none, _ => .ok none
  | some (.array js), name :: rest =>
    match Text.word64? name with
    | none => .error (.itemName name)
    | some i => follow js[i]? rest
  | some j, name :: rest => follow (j.field? name) rest

/-- The value at a path, if there is one. The scopes go from the innermost outwards; where a path leaves
the outermost, the innermost counts. A marker is that of the nearest block that has it. -/
def Path.value? (root : Json) (scopes : List Scope) : Path → Except RenderError (Option Json)
  | marker outwards name => .ok ((scopes.drop outwards).findSome? (·.markers.find? name))
  | value .root names => follow (some root) names
  | value (.block outwards) names =>
    let named := names.head?.bind fun name => scopes.findSome? (·.names.find? name)
    match named with
    | some j => follow (some j) (names.drop 1)
    | none => follow ((scopes[outwards]? <|> scopes.head?).map (·.value)) names

/-! ### Reading -/

def isSymbol (c : Char) : Bool :=
  c.isAlphanum || ['_', '-', '$', ':', '?'].contains c || 0x80 ≤ c.toNat

def isSeparator (c : Char) : Bool :=
  c == '/' || c == '.'

/-- Whether a character may stand between the words of a tag. -/
def isGap (c : Char) : Bool :=
  c == ' ' || c == '\t' || c == '\n' || c == '\r'

def skipGap (s : List Char) : List Char :=
  s.dropWhile isGap

/-- Reads a word whose characters have a property, of at least one character. -/
def word? (p : Char → Bool) (s : List Char) : Option (String × List Char) :=
  let w := s.takeWhile p
  if w.isEmpty then none else some (String.ofList w, s.dropWhile p)

/-- A part of a path as it is written. -/
inductive Segment where
  | root
  | marker
  | up
  | name (text : String)
  deriving DecidableEq, Repr

namespace Segment

/-- Drops a mention of the value of the block at the head of a path. -/
def skipThis : List Char → List Char
  | '.' :: '/' :: rest => rest
  | 't' :: 'h' :: 'i' :: 's' :: c :: rest =>
    if isSeparator c then rest else 't' :: 'h' :: 'i' :: 's' :: c :: rest
  | s => s

def root? : List Char → Option (List Char)
  | '@' :: 'r' :: 'o' :: 'o' :: 't' :: c :: rest => if isSeparator c then some rest else none
  | _ => none

def ups : List Char → List Segment × List Char
  | '.' :: '.' :: c :: rest =>
    if isSeparator c then
      let (more, rest) := ups rest
      (up :: more, rest)
    else ([], '.' :: '.' :: c :: rest)
  | s => ([], s)

/-- Reads a name, which may be anything between brackets. -/
def name? : List Char → Option (Segment × List Char)
  | '[' :: s =>
    match s.dropWhile (· != ']') with
    | ']' :: rest => some (name (String.ofList (s.takeWhile (· != ']'))), rest)
    | _ => none
  | s => (word? isSymbol s).map fun r => (name r.1, r.2)

/-- Reads further names, at most so many. -/
def names : Nat → List Char → List Segment × List Char
  | 0, s => ([], s)
  | steps + 1, s =>
    match s with
    | [] => ([], s)
    | c :: rest =>
      if !isSeparator c then ([], s)
      else match name? rest with
        | none => ([], s)
        | some (n, rest) =>
          let (more, rest) := names steps rest
          (n :: more, rest)

def path? (s : List Char) : Option (List Segment × List Char) := do
  let s := skipThis s
  let (first, s) := match root? s with
    | some rest => ([root], rest)
    | none => ([], s)
  let (second, s) := match s with
    | '@' :: rest => ([marker], rest)
    | s => ([], s)
  let (third, s) := ups s
  let (n, s) ← name? s
  let (more, s) := names s.length s
  return (first ++ second ++ third ++ n :: more, s)

/-- The name that a segment is. The word `this` names nothing. -/
def text? : Segment → Option String
  | name t => if t = "this" then none else some t
  | _ => none

end Segment

def Path.ofSegments (segs : List Segment) : Path :=
  let names := segs.filterMap Segment.text?
  match segs with
  | .marker :: rest =>
    let outwards := (rest.takeWhile (· == .up)).length
    match names with
    | name :: _ => marker outwards name
    | [] => value (.block 0) []
  | .root :: _ => value .root names
  | _ => value (.block (segs.takeWhile (· == .up)).length) names

/-- Reads a path: its text, what it stands for, and what follows. -/
def Path.read? (s : List Char) : Option (String × Path × List Char) := do
  let (segs, rest) ← Segment.path? s
  return (String.ofList (s.take (s.length - rest.length)), ofSegments segs, rest)

end Template

end Reconciliation
