import Reconciliation.Text.Digits
import Reconciliation.Yaml.Scalar.Folding
/-!
# Quoted scalars

Between single quotes every character stands for itself and a quote is written twice. Between double
quotes a backslash starts an escape. Lines are folded in both, and no document may start or end inside.
-/

namespace Reconciliation

namespace Yaml

namespace Quoted

inductive Style where
  | single
  | double
  deriving DecidableEq

def Style.quote : Style → Char
  | single => '\x27'
  | double => '"'

/-- The characters that escapes of one letter stand for. -/
def letters : List (Char × Nat) := [
  ('0', 0), ('a', 7), ('b', 8), ('t', 9), ('\t', 9), ('n', 10), ('v', 11), ('f', 12), ('r', 13),
  ('e', 27), (' ', 0x20), ('"', 0x22), ('/', 0x2F), ('\\', 0x5C), ('N', 0x85), ('_', 0xA0),
  ('L', 0x2028), ('P', 0x2029)]

/-- The letters that announce so many hexadecimal digits. -/
def numbered : List (Char × Nat) := [('x', 2), ('u', 4), ('U', 8)]

def character? (n : Nat) : Option Char :=
  if n.isValidChar then some (Char.ofNat n) else none

/-- Reads the escape after a backslash: the character, and how many characters it took. -/
def escape? : List Char → Option (Char × Nat)
  | [] => none
  | c :: rest =>
    match letters.lookup c with
    | some n => some (Char.ofNat n, 1)
    | none => do
      let width ← numbered.lookup c
      let n ← Text.radixValue? 16 (rest.take width)
      if (rest.take width).length < width then none
      else return (← character? n, width + 1)

/-- A word inside quotes: its text, how many characters it took, and whether it ended in an escaped
break. -/
structure Word where
  text : List Char
  width : Nat
  escapedBreak : Bool

/-- The word with a character before it that took so many. -/
def Word.cons (c : Char) (width : Nat) (w : Word) : Word :=
  ⟨c :: w.text, width + w.width, w.escapedBreak⟩

/-- The word at the head of a text, of at most so many characters: up to a quote, a blank, a break or an
escaped break. -/
def word (style : Style) (s : List Char) : Nat → Except Error Word
  | 0 => .ok ⟨[], 0, false⟩
  | steps + 1 =>
    match style, s with
    | _, [] => .ok ⟨[], 0, false⟩
    | .single, '\x27' :: '\x27' :: rest => (word style rest steps).map (Word.cons '\x27' 2)
    | .single, c :: rest =>
      if isSpace c || c == '\x27' then .ok ⟨[], 0, false⟩
      else (word style rest steps).map (Word.cons c 1)
    | .double, c :: rest =>
      if isSpace c || c == '"' then .ok ⟨[], 0, false⟩
      else if c == '\\' then
        if rest.head?.any isBreak then .ok ⟨[], 1, true⟩
        else match escape? rest with
          | none => .error .escape
          | some (x, width) =>
            (word style (rest.drop width) steps).map (Word.cons x (width + 1))
      else (word style rest steps).map (Word.cons c 1)

/-- Scans the words of a quoted scalar after a text, at most so many, and the closing quote. -/
def words (style : Style) (text : List Char) (c : Cursor) :
    Nat → Except Error (List Char × Cursor)
  | 0 => .error .unclosedQuote
  | steps + 1 => do
    if c.atDocumentMark || c.rest.isEmpty then throw .unclosedQuote
    let w ← word style c.rest c.rest.length
    let c := c.advance w.width
    let text := text ++ w.text
    if w.escapedBreak then
      let (g, c) ← c.advanceLine.quotedGap true
      words style (text ++ g.text) c steps
    else if c.rest.head? == some style.quote then return (text, c.advance 1)
    else
      let (g, c) ← c.quotedGap false
      words style (text ++ g.text) c steps

def scan (style : Style) (c : Cursor) : Except Error (List Char × Cursor) :=
  words style [] (c.advance 1) (c.rest.length + 1)

end Quoted

end Yaml

end Reconciliation
