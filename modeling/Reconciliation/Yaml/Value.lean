import Reconciliation.Json
import Reconciliation.Text.Decimal
import Reconciliation.Yaml.Node
/-!
# YAML values

The value of a document: its aliases are replaced by what they stand for and its plain scalars are typed.
`null`, the truth values and the numbers have the spellings of the core schema; every other plain scalar is
a text. A number with zeros before its digits is a text too. A tag of the schema forces the type, and a
tag of one's own stays with the value.

Collections may be nested 128 deep, keys of a mapping differ, and the number of aliases that are followed
is bounded by the size of the document.
-/

namespace Reconciliation

/-- A YAML value. -/
inductive Yaml where
  | null
  | bool (value : Bool)
  | int (value : Int)
  | float (value : Binary64)
  | string (text : String)
  | sequence (items : List Yaml)
  | mapping (pairs : List (Yaml × Yaml))
  | tagged (tag : String) (value : Yaml)
  deriving Inhabited

namespace Yaml

/-! ### Scalars -/

def isUndefined (x : Binary64) : Bool :=
  x.exponentField == 2047 && x.fractionField != 0

def undefined : Binary64 :=
  .ofParts false (2047 * Nat.pow 2 52 + Nat.pow 2 51)

def nullWords : List String := ["null", "Null", "NULL", "~"]

def truthWords : List (String × Bool) := [
  ("true", true), ("True", true), ("TRUE", true), ("false", false), ("False", false), ("FALSE", false)]

def numberWords : List (String × Binary64) := [
  (".inf", .infinity false), (".Inf", .infinity false), (".INF", .infinity false),
  ("+.inf", .infinity false), ("+.Inf", .infinity false), ("+.INF", .infinity false),
  ("-.inf", .infinity true), ("-.Inf", .infinity true), ("-.INF", .infinity true),
  (".nan", undefined), (".NaN", undefined), (".NAN", undefined)]

/-- Whether digits have a zero before them. -/
def isPadded (ds : List Char) : Bool :=
  ds.length > 1 && ds.head? == some '0' && ds.all Char.isDigit

/-- The whole number that a text without a sign stands for. -/
def magnitude? (s : List Char) : Option Nat :=
  match s with
  | '0' :: 'x' :: ds => Text.radixValue? 16 ds
  | '0' :: 'o' :: ds => Text.radixValue? 8 ds
  | '0' :: 'b' :: ds => Text.radixValue? 2 ds
  | ds => if isPadded ds then none else Text.radixValue? 10 ds

/-- The whole number that a text stands for. One that does not even fit 128 bits is none. -/
def integer? (s : List Char) : Option Int := do
  let (negative, rest) := Text.unsigned s
  let n ← magnitude? rest
  if negative then if n ≤ Nat.pow 2 127 then some (-n) else none
  else if n < Nat.pow 2 128 then some n else none

/-- Whether a whole number fits 64 bits, with a sign or without. -/
def fits (n : Int) : Bool :=
  -(Nat.pow 2 63 : Int) ≤ n && n < Nat.pow 2 64

/-- The number that a text stands for. A decimal that is too large is none. -/
def float? (text : String) : Option Binary64 :=
  match numberWords.lookup text with
  | some x => some x
  | none =>
    let (negative, rest) := Text.unsigned text.toList
    (Text.decimal? negative rest).filter (·.isFinite)

def ofInteger (n : Int) : Except Error Yaml :=
  if fits n then .ok (.int n) else .error .number

/-- The value of a plain scalar without a tag. -/
def ofPlain (text : String) : Except Error Yaml :=
  if text.isEmpty || nullWords.contains text then .ok .null
  else match truthWords.lookup text with
    | some b => .ok (.bool b)
    | none =>
      match integer? text.toList with
      | some n => ofInteger n
      | none =>
        if isPadded (Text.unsigned text.toList).2 then .ok (.string text)
        else match float? text with
          | some x => .ok (.float x)
          | none => .ok (.string text)

/-- The tag of one's own that a written tag is, without the mark that it begins with. The mark alone is
such a tag too. -/
def ownTag? (tag : String) : Option String :=
  match tag.toList with
  | ['!'] => some tag
  | '!' :: rest => some (String.ofList rest)
  | _ => none

def schemaTag (name : String) : String :=
  "tag:yaml.org,2002:" ++ name

/-- The value of a scalar with a tag that is not one's own. -/
def ofTagged (tag text : String) : Except Error Yaml :=
  if tag = schemaTag "bool" then
    match truthWords.lookup text with
    | some b => .ok (.bool b)
    | none => .error .mismatch
  else if tag = schemaTag "int" then
    match integer? text.toList with
    | some n => ofInteger n
    | none => .error .mismatch
  else if tag = schemaTag "float" then
    match float? text with
    | some x => .ok (.float x)
    | none => .error .mismatch
  else if tag = schemaTag "null" then
    if nullWords.contains text then .ok .null else .error .mismatch
  else .ok (.string text)

/-- A value with its tag, if that is one's own. -/
def withTag (tag : Option String) (y : Yaml) : Yaml :=
  match tag.bind ownTag? with
  | none => y
  | some t => .tagged t y

def ofScalar (tag : Option String) (plain : Bool) (text : String) : Except Error Yaml :=
  match tag with
  | none => if plain then ofPlain text else .ok (.string text)
  | some t =>
    if (ownTag? t).isNone then ofTagged t text
    else (if plain then ofPlain text else .ok (.string text)).map (withTag tag)

/-! ### Equality -/

mutual

/-- Whether two values are the same as keys: the order of pairs does not matter, undefined numbers are
the same, and so are the two zeros. -/
def same : Yaml → Yaml → Bool
  | null, null => true
  | bool a, bool b => a == b
  | int a, int b => a == b
  | float a, float b =>
    if isUndefined a || isUndefined b then isUndefined a && isUndefined b
    else a == b || (a.isFinite && b.isFinite && a.scaled == b.scaled)
  | string a, string b => a == b
  | sequence as, sequence bs => sameItems as bs
  | mapping as, mapping bs => as.length == bs.length && allAmong as bs
  | tagged s a, tagged t b => bareTag s == bareTag t && same a b
  | _, _ => false
where
  /-- A tag without the mark that it may begin with. -/
  bareTag (t : String) : String :=
    (ownTag? t).getD t

def sameItems : List Yaml → List Yaml → Bool
  | [], [] => true
  | a :: as, b :: bs => same a b && sameItems as bs
  | _, _ => false

/-- Whether each pair of a list is among others. -/
def allAmong : List (Yaml × Yaml) → List (Yaml × Yaml) → Bool
  | [], _ => true
  | (k, v) :: rest, others =>
    (others.any fun p => same k p.1 && same v p.2) && allAmong rest others

end

/-! ### Documents -/

def maxDepth : Nat := 128

/-- How often an alias may be followed, for each part of a document. -/
def maxFollowed : Nat := 100

/-- A computation that counts the aliases that it followed. -/
abbrev Resolver : Type → Type := StateT Nat (Except Error)

/-- The node that another one stands for. -/
def follow (d : Document) (n : Node) : Resolver Node := do
  match n with
  | .alias slot =>
    let followed := (← get) + 1
    set followed
    if d.size * maxFollowed < followed then throw .tooManyAliases
    match d.held? slot with
    | some n => return n
    | none => throw .unknownAnchor
  | n => return n

/-- The value of a node of a document, collections nested at most so deep. -/
def ofNode (d : Document) : Nat → Node → Resolver Yaml
  | depth, n => do
    match ← follow d n with
    | .alias _ => throw .unknownAnchor
    | .scalar tag plain text => ofScalar tag plain text
    | .sequence tag items =>
      match depth with
      | 0 => throw .tooDeep
      | depth + 1 =>
        let values ← items.mapM (ofNode d depth)
        return withTag tag (.sequence values)
    | .mapping tag pairs =>
      match depth with
      | 0 => throw .tooDeep
      | depth + 1 =>
        let values ← pairs.foldlM (fun done pair => do
          let key ← ofNode d depth pair.1
          if done.any fun p => same p.1 key then throw .duplicateKey
          let value ← ofNode d depth pair.2
          return (key, value) :: done) []
        return withTag tag (.mapping values.reverse)

def ofDocument (d : Document) : Except Error Yaml :=
  (ofNode d maxDepth d.root).run' 0

/-- The values of the documents of a text, up to the first that has an error. -/
def allOfText (text : String) : List (Except Error Yaml) :=
  (Document.allOf text).map fun d => d.bind ofDocument

/-! ### JSON -/

def untagged : Yaml → Yaml
  | tagged _ y => untagged y
  | y => y

/-- The text of a string, with a tag or without. -/
def text? (y : Yaml) : Option String :=
  match y.untagged with
  | string s => some s
  | _ => none

mutual

/-- A value as JSON. A number that is not finite becomes `null`, keys must be strings, and a tag has no
counterpart. -/
def toJson : Yaml → Except Error Json
  | null => .ok .null
  | bool b => .ok (.bool b)
  | int n => .ok (.int n)
  | float x => .ok (if x.isFinite then .float x else .null)
  | string s => .ok (.string s)
  | sequence ys => (itemsToJson ys).map .array
  | mapping ps => (pairsToJson ps).map fun fs => .object (Table.ofList fs)
  | tagged _ _ => .error .tag

def itemsToJson : List Yaml → Except Error (List Json)
  | [] => .ok []
  | y :: ys => do return (← toJson y) :: (← itemsToJson ys)

def pairsToJson : List (Yaml × Yaml) → Except Error (List (String × Json))
  | [] => .ok []
  | (k, v) :: ps =>
    match k.text? with
    | none => .error .key
    | some name => do return (name, ← toJson v) :: (← pairsToJson ps)

end

/-- The value of a field of a mapping, under a key without a tag. -/
def field? (pairs : List (Yaml × Yaml)) (name : String) : Option Yaml :=
  (pairs.find? fun p => same p.1 (string name)).map Prod.snd

end Yaml

end Reconciliation
