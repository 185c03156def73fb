import Reconciliation.Error
import Reconciliation.Template.Layout
/-!
# Templates

A template is a sequence of elements: texts, things given out, and blocks with what is inside of them. A
source is a template if its tags are well formed and its blocks are closed in the order in which they were
opened, each by its own name. The name may be left out at the end of a definition or of a partial.
-/

namespace Reconciliation

namespace Template

/-- A part of a template. A block keeps whether its tag was alone on its line. -/
inductive Element where
  | text (s : String)
  | output (o : Operand)
  | call (helper : String) (arguments : Arguments)
  | block (head : Head) (alone : Bool) (body : List Element) (alternative : Option (List Element))
  | decorator (head : Head)
  | definition (head : Head) (body : List Element)
  | insertion (name : PartialName) (arguments : Arguments) (place : Place)
      (body : Option (List Element))
  deriving Inhabited

/-- What is left to be put together: texts and tags, and where each tag stood. -/
inductive Part where
  | text (s : String)
  | tag (t : Tag) (place : Place)

/-- The parts of laid out pieces. Empty texts and comments are left out. -/
def parts (ps : List (String × Option (Tag × Place))) : List Part :=
  ps.flatMap fun p =>
    (if p.1.isEmpty then [] else [.text p.1]) ++
      match p.2 with
      | none => []
      | some (.comment, _) => []
      | some (t, place) => [.tag t place]

mutual

/-- Puts elements together, in at most so many steps, up to a tag that ends or divides a block. -/
def elements? : Nat → List Part → Option (List Element × List Part)
  | 0, _ => none
  | _, [] => some ([], [])
  | steps + 1, .text s :: rest => (elements? steps rest).map fun r => (.text s :: r.1, r.2)
  | steps + 1, .tag t place :: rest =>
    match t with
    | .close _ => some ([], .tag t place :: rest)
    | .alternative _ => some ([], .tag t place :: rest)
    | .comment => elements? steps rest
    | .output o => (elements? steps rest).map fun r => (.output o :: r.1, r.2)
    | .call helper a => (elements? steps rest).map fun r => (.call helper a :: r.1, r.2)
    | .decorator h => (elements? steps rest).map fun r => (.decorator h :: r.1, r.2)
    | .insertion name a =>
      (elements? steps rest).map fun r => (.insertion name a place none :: r.1, r.2)
    | .block h => do
      let (e, name, rest) ← block? steps h place.alone rest
      if name = h.helper then
        let (es, rest) ← elements? steps rest
        return (e :: es, rest)
      else none
    | .decoratorBlock h => do
      let (body, closed, rest) ← body? steps rest
      if closed.isEmpty || closed = h.helper then
        let (es, rest) ← elements? steps rest
        return (.definition h body :: es, rest)
      else none
    | .insertionBlock name a => do
      let (body, closed, rest) ← body? steps rest
      if isNamed closed name then
        let (es, rest) ← elements? steps rest
        return (.insertion name a { place with indent := "" } (some body) :: es, rest)
      else none
where
  /-- Whether a closing tag names a partial, or nothing. -/
  isNamed (closed : String) : PartialName → Bool
    | .word name => closed.isEmpty || closed == name
    | .operand _ => closed.isEmpty

/-- Puts a block together after its beginning: the block, and the name that closes it. -/
def block? : Nat → Head → Bool → List Part → Option (Element × String × List Part)
  | 0, _, _, _ => none
  | steps + 1, h, alone, ps => do
    let (body, rest) ← elements? steps ps
    match rest with
    | .tag (.close name) _ :: rest => some (.block h alone body none, name, rest)
    | .tag (.alternative none) _ :: rest =>
      let (alternative, name, rest) ← body? steps rest
      return (.block h alone body (some alternative), name, rest)
    | .tag (.alternative (some next)) place :: rest =>
      let (e, name, rest) ← block? steps next place.alone rest
      return (.block h alone body (some [e]), name, rest)
    | _ => none

/-- Puts the elements together that a closing tag ends, and gives its name. -/
def body? : Nat → List Part → Option (List Element × String × List Part)
  | 0, _ => none
  | steps + 1, ps => do
    let (body, rest) ← elements? steps ps
    match rest with
    | .tag (.close name) _ :: rest => some (body, name, rest)
    | _ => none

end

def ofSource? (source : String) : Option (List Element) := do
  let s := source.toList
  let ps := parts (layout true {} (← pieces? (s.length + 1) s))
  let (es, rest) ← elements? (2 * ps.length + 2) ps
  if rest.isEmpty then some es else none

end Template

structure Template where
  name : String
  elements : List Template.Element

def Template.compile (name source : String) : Except TemplateError Template :=
  match Template.ofSource? source with
  | some es => .ok ⟨name, es⟩
  | none => .error (.compile name "invalid syntax")

end Reconciliation
