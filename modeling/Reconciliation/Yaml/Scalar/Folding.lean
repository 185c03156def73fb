import Reconciliation.Yaml.Cursor
/-!
# Folding lines

A scalar may go on over several lines. Between two of its words on one line the blanks count. A single
break between them becomes one space, and of several breaks all but the first count; the blanks around
breaks do not.
-/

namespace Reconciliation

namespace Yaml

/-- What stands between two words: the blanks before the first break, that break and the further ones. -/
structure Gap where
  blanks : List Char := []
  first : Option Char := none
  more : List Char := []
  crossed : Bool := false

namespace Gap

/-- The text that a gap stands for. A break that was escaped has no first character. -/
def text (g : Gap) : List Char :=
  if !g.crossed then g.blanks
  else match g.first with
    | some '\n' => if g.more.isEmpty then [' '] else g.more
    | some c => c :: g.more
    | none => g.more

def add (g : Gap) (c : Char) : Gap :=
  if isBreak c then
    if g.crossed then { g with more := g.more ++ [c] }
    else { g with first := some c, crossed := true }
  else if g.crossed then g
  else { g with blanks := g.blanks ++ [c] }

/-- Goes on with a gap over at most so many characters. After a break no tab may stand left of the given
column. -/
def extend (column : Nat) (g : Gap) (c : Cursor) : Nat → Except Error (Gap × Cursor)
  | 0 => .ok (g, c)
  | steps + 1 =>
    match c.rest with
    | [] => .ok (g, c)
    | x :: _ =>
      if !isSpace x then .ok (g, c)
      else if g.crossed && c.column < column && x == '\t' then .error .tab
      else extend column (g.add x) c.next steps

end Gap

/-- The gap at a place of a plain scalar, whose lines must reach the given column. -/
def Cursor.gap (c : Cursor) (column : Nat) : Except Error (Gap × Cursor) :=
  Gap.extend column {} c c.rest.length

/-- The gap at a place of a quoted scalar; it may begin after an escaped break. -/
def Cursor.quotedGap (c : Cursor) (escaped : Bool) : Except Error (Gap × Cursor) :=
  Gap.extend 0 { crossed := escaped } c c.rest.length

end Yaml

end Reconciliation
