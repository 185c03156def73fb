import Reconciliation.Json.Number
import Reconciliation.Json.Written
/-!
# Reading JSON text

A reader takes the head of a text and leaves what follows. A text is one value with blanks around it.

What cannot be evaluated is still read up to its end: a number out of range, a text whose escapes do not
pair up, and a container nested more than 127 deep are broken, and so is an object with such a text for a
name.
-/

namespace Reconciliation

namespace Json

namespace Reader

/-- Whether a character may stand between the words of a text. -/
def isBlank (c : Char) : Bool :=
  c == ' ' || c == '\n' || c == '\t' || c == '\r'

def skipBlanks (s : List Char) : List Char :=
  s.dropWhile isBlank

def hexQuad? (a b c d : Char) : Option Nat :=
  Text.radixValue? 16 [a, b, c, d]

def unescape? (c : Char) : Option Char :=
  if c = '"' then some '"'
  else if c = '\\' then some '\\'
  else if c = '/' then some '/'
  else if c = 'b' then some (Char.ofNat 8)
  else if c = 'f' then some (Char.ofNat 12)
  else if c = 'n' then some '\n'
  else if c = 'r' then some '\r'
  else if c = 't' then some '\t'
  else none

/-- The character that two halves of a pair stand for. -/
def paired? (high low : Nat) : Option Char :=
  if 0xD800 ≤ high ∧ high ≤ 0xDBFF ∧ 0xDC00 ≤ low ∧ low ≤ 0xDFFF then
    some (Char.ofNat (0x10000 + (high - 0xD800) * 0x400 + (low - 0xDC00)))
  else none

def single? (unit : Nat) : Option Char :=
  if unit < 0xD800 ∨ 0xDFFF < unit then some (Char.ofNat unit) else none

/-- A part of a string: a character, or a unit that is written with four digits. -/
inductive Piece where
  | char (c : Char)
  | unit (n : Nat)
  deriving DecidableEq, Repr

/-- Reads a string whose opening quote is gone: its parts, and what follows the closing quote. -/
def stringTail : List Char → Option (List Piece × List Char)
  | [] => none
  | '"' :: rest => some ([], rest)
  | '\\' :: 'u' :: a :: b :: c :: d :: rest => do
    let unit ← hexQuad? a b c d
    (stringTail rest).map fun r => (.unit unit :: r.1, r.2)
  | '\\' :: c :: rest => do
    let c ← unescape? c
    (stringTail rest).map fun r => (.char c :: r.1, r.2)
  | c :: rest =>
    if c.toNat < 32 ∨ c = '\\' then none
    else (stringTail rest).map fun r => (.char c :: r.1, r.2)

/-- The characters that parts stand for, if no half of a pair is left over. -/
def characters? : List Piece → Option (List Char)
  | [] => some []
  | .char c :: ps => (characters? ps).map (c :: ·)
  | .unit a :: .unit b :: ps =>
    match paired? a b with
    | some c => (characters? ps).map (c :: ·)
    | none => do return (← single? a) :: (← characters? (.unit b :: ps))
  | .unit a :: ps => do return (← single? a) :: (← characters? ps)

def text? (ps : List Piece) : Option String :=
  (characters? ps).map String.ofList

def name? : List Char → Option (Option String × List Char)
  | '"' :: rest => (stringTail rest).map fun r => (text? r.1, r.2)
  | _ => none

/-- A value, or something broken in its place. -/
def orBroken (j : Option Json) : Written :=
  (j.map .value).getD .broken

/-- A container, unless it is nested too deep. -/
def nested (depth : Nat) (w : Written) : Written :=
  if depth = 0 then .broken else w

/-- An object of fields, unless a name among them is broken. -/
def ofMembers (ms : List (Option String × Written)) : Written :=
  match ms.mapM fun (m : Option String × Written) => m.1.map fun name => (name, m.2) with
  | some fs => .object fs
  | none => .broken

mutual

/-- Reads a value with blanks before it. The first number bounds the steps, the second the depth. -/
def value? : Nat → Nat → List Char → Option (Written × List Char)
  | 0, _, _ => none
  | fuel + 1, depth, s =>
    match skipBlanks s with
    | 'n' :: 'u' :: 'l' :: 'l' :: rest => some (.value .null, rest)
    | 't' :: 'r' :: 'u' :: 'e' :: rest => some (.value (.bool true), rest)
    | 'f' :: 'a' :: 'l' :: 's' :: 'e' :: rest => some (.value (.bool false), rest)
    | '"' :: rest =>
      (stringTail rest).map fun r => (orBroken ((text? r.1).map .string), r.2)
    | '[' :: rest =>
      match skipBlanks rest with
      | ']' :: rest => some (nested depth (.array []), rest)
      | rest => (items? fuel (depth - 1) rest).map fun r => (nested depth (.array r.1), r.2)
    | '\x7b' :: rest =>
      match skipBlanks rest with
      | '\x7d' :: rest => some (nested depth (.object []), rest)
      | rest => (members? fuel (depth - 1) rest).map fun r => (nested depth (ofMembers r.1), r.2)
    | rest => (Numeral.scan? rest).map fun r => (orBroken r.1.value?, r.2)

/-- Reads the items of an array up to its end, at least one. -/
def items? : Nat → Nat → List Char → Option (List Written × List Char)
  | 0, _, _ => none
  | fuel + 1, depth, s => do
    let (item, s) ← value? fuel depth s
    match skipBlanks s with
    | ']' :: rest => some ([item], rest)
    | ',' :: rest => (items? fuel depth rest).map fun r => (item :: r.1, r.2)
    | _ => none

/-- Reads the fields of an object up to its end, at least one. -/
def members? : Nat → Nat → List Char → Option (List (Option String × Written) × List Char)
  | 0, _, _ => none
  | fuel + 1, depth, s => do
    let (name, s) ← name? (skipBlanks s)
    match skipBlanks s with
    | ':' :: s =>
      let (field, s) ← value? fuel depth s
      match skipBlanks s with
      | '\x7d' :: rest => some ([(name, field)], rest)
      | ',' :: rest => (members? fuel depth rest).map fun r => ((name, field) :: r.1, r.2)
      | _ => none
    | _ => none

end

def maxDepth : Nat := 127

end Reader

open Reader in
/-- What a whole text has written in it. -/
def Written.ofText? (text : String) : Option Written := do
  let s := text.toList
  let (w, rest) ← value? (2 * s.length + 2) maxDepth s
  if (skipBlanks rest).isEmpty then some w else none

def ofText? (text : String) : Option Json :=
  (Written.ofText? text).bind Written.json?

end Json

end Reconciliation
