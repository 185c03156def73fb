import Reconciliation.Template.Tag
import Reconciliation.Text.Blank
/-!
# Text around tags

A tag that gives nothing out by itself and is alone on its line takes the line with it: the blanks before
it and the rest of the line after it. The end of the text ends its last line. A tilde takes all blanks and
breaks on its side. Where a tag stood is kept beside it, because what it stands for may be indented by the
blanks before it.
-/

namespace Reconciliation

namespace Template

def isLineBlank (c : Char) : Bool :=
  c == ' ' || c == '\t'

def isLineEnd (c : Char) : Bool :=
  c == '\n' || c == '\r'

/-- A text without the characters with a property at its end. -/
def dropEnd (p : Char → Bool) (s : List Char) : List Char :=
  (s.reverse.dropWhile p).reverse

def beginsEmptyLine (s : List Char) : Bool :=
  (s.dropWhile isLineBlank).head?.any isLineEnd

/-- Whether no tag and no text is left. -/
def isOver : List Piece → Bool
  | [] => true
  | [p] => p.source.isEmpty && p.tag.isNone
  | _ => false

/-- Whether the rest of a line is empty before further pieces. -/
def endsLine (rest : List Piece) : Bool :=
  isOver rest || beginsEmptyLine ((rest.head?.map (·.source)).getD [])

/-- Whether the last line of a text is empty. The text before the first tag may be a single line. -/
def endsEmptyLine (first : Bool) (s : List Char) : Bool :=
  match dropEnd isLineBlank s with
  | [] => first
  | rest => rest.getLast?.any isLineEnd

/-- A text without the blanks of its first line and the end of that line. -/
def dropLine (s : List Char) : List Char :=
  match s.dropWhile isLineBlank with
  | '\r' :: '\n' :: rest => rest
  | '\n' :: rest => rest
  | rest => rest

namespace Tag

/-- Whether a tag gives something out in its place. -/
def isInline : Tag → Bool
  | output _ => true
  | call _ _ => true
  | _ => false

def isComment : Tag → Bool
  | comment => true
  | _ => false

end Tag

/-- What the tags so far ask of the next text: to trim it, or to drop the rest of a line. -/
structure Demand where
  trim : Bool := false
  line : Bool := false

/-- A text as the tags before it ask for it. -/
def Demand.apply (d : Demand) (text : List Char) : List Char :=
  if d.trim then Text.dropBlanks text
  else if d.line then dropLine text
  else text

/-- Whether a text meets a demand, so that only later tags count. One that is trimmed away does not. -/
def Demand.isMet (d : Demand) (text : List Char) : Bool :=
  !text.isEmpty && !(d.trim && text.all isGap)

/-- Where a tag stood: the blanks before it, and whether it was alone on its line. A tag that trims the text
before it has no place on a line. -/
structure Place where
  indent : String := ""
  alone : Bool := false
  deriving Inhabited

/-- The pieces with their texts as they are given out, and for each its tag and where it stood. -/
def layout (first : Bool) (d : Demand) : List Piece → List (String × Option (Tag × Place))
  | [] => []
  | p :: rest =>
    let text := d.apply p.text
    match p.tag with
    | none => (String.ofList text, none) :: layout false d rest
    | some m =>
      let alone := !m.tag.isInline && endsLine rest && endsEmptyLine first p.source
      let text := if m.trimsBefore then (Text.dropBlanks text.reverse).reverse else text
      let text := if alone then dropEnd isLineBlank text else text
      let indent := p.source.drop (dropEnd isLineBlank p.source).length
      let place : Place := if m.trimsBefore then {} else ⟨String.ofList indent, alone⟩
      let next : Demand := {
        trim := if m.tag.isComment then d.trim else m.trimsAfter
        line := if m.tag.isInline then d.line && !d.isMet p.text else alone }
      (String.ofList text, some (m.tag, place)) :: layout false next rest

end Template

end Reconciliation
