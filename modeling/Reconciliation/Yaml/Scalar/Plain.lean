import Reconciliation.Yaml.Scalar.Folding
/-!
# Plain scalars

A plain scalar has no quotes. It ends before a colon or a number sign that stands apart, in flow
collections also before their punctuation, and before a line that is not indented enough.
-/

namespace Reconciliation

namespace Yaml

/-- Whether a character is punctuation of flow collections. -/
def isFlowPunctuation (c : Char) : Bool :=
  c == ',' || c == '[' || c == ']' || c == '\x7b' || c == '\x7d'

namespace Plain

/-- Whether a text is punctuation of flow collections, or a question mark. -/
def isPunctuated : List Char → Bool
  | [] => false
  | c :: _ => isFlowPunctuation c || c == '?'

/-- The word of a plain scalar at the head of a text. -/
def word (flow : Bool) : List Char → Except Error (List Char)
  | [] => .ok []
  | c :: rest =>
    if isSpace c then .ok []
    else if flow && c == ':' && isPunctuated rest then .error .flowColon
    else if (c == ':' && endsWord rest) || (flow && isFlowPunctuation c) then .ok []
    else (word flow rest).map (c :: ·)

/-- A scanned scalar: its text, the place after it, and whether that is on a later line. -/
structure Scanned where
  text : List Char
  next : Cursor
  crossed : Bool

/-- Scans the words of a plain scalar after a text and a gap, at most so many. Lines that go on with it
reach the given column unless they are in a flow collection. -/
def words (flow : Bool) (column : Nat) (text : List Char) (g : Gap) (c : Cursor) :
    Nat → Except Error Scanned
  | 0 => .ok ⟨text, c, g.crossed⟩
  | steps + 1 => do
    if c.atDocumentMark || c.rest.head? == some '#' then return ⟨text, c, g.crossed⟩
    let w ← word flow c.rest
    let (text, g) := if w.isEmpty then (text, g) else (text ++ g.text ++ w, {})
    let c := c.advance w.length
    if !(c.rest.head?.any isSpace) then return ⟨text, c, g.crossed⟩
    let (g, c) ← c.gap column
    if !flow && c.column < column then return ⟨text, c, g.crossed⟩
    words flow column text g c steps

def scan (flow : Bool) (column : Nat) (c : Cursor) : Except Error Scanned :=
  words flow column [] {} c (c.rest.length + 1)

end Plain

end Yaml

end Reconciliation
