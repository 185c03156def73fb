import Reconciliation.Table
import Reconciliation.Yaml.Token.Lexer
/-!
# Documents as trees

The tokens of a text are the documents one after the other. A node that is left out is an empty plain
scalar. Anchors are kept beside the tree, and an alias names the anchor that it stands for, so a tree is
finite also when an alias stands inside of what it stands for.

A document with an error ends the text: where the next one would begin is not known.
-/

namespace Reconciliation

namespace Yaml

/-- A node. An alias names a slot of the document. -/
inductive Node where
  | alias (slot : Nat)
  | scalar (tag : Option String) (plain : Bool) (text : String)
  | sequence (tag : Option String) (items : List Node)
  | mapping (tag : Option String) (pairs : List (Node × Node))
  deriving Inhabited

/-- A document: its root, the number of its parts, and what the slots hold. A slot holds the node of the
latest anchor that was put there, and the nodes are numbered as they begin. -/
structure Document where
  root : Node
  size : Nat
  slots : List (Nat × Nat)
  nodes : List (Nat × Node)

def Document.held? (d : Document) (slot : Nat) : Option Node :=
  (d.slots.lookup slot).bind fun number => d.nodes.lookup number

def Node.empty : Node := .scalar none true ""

/-! ### State of a reader -/

/-- What is left of the tokens, the meanings of tag handles, the slots of anchor names, and what a
document keeps. -/
structure Reading where
  tokens : List Token
  handles : Table String := []
  names : Table Nat := []
  slots : List (Nat × Nat) := []
  nodes : List (Nat × Node) := []
  begun : Nat := 0
  size : Nat := 0

/-- A reader of nodes. -/
abbrev Reader : Type → Type := StateT Reading (Except Error)

namespace Reader

def peek : Reader (Option Token) :=
  return (← get).tokens.head?

def drop : Reader Unit :=
  modify fun r => { r with tokens := r.tokens.drop 1 }

def refuse {α : Type} : Reader α := do
  match ← peek with
  | some (.invalid e) => throw e
  | _ => throw .content

def expect (t : Token) : Reader Unit := do
  if (← peek) == some t then drop else refuse

def count (n : Nat) : Reader Unit :=
  modify fun r => { r with size := r.size + n }

def omitted : Reader Node := do
  count 1
  return .empty

def atOne (ts : List Token) : Reader Bool := do
  return (← peek).any ts.contains

/-! ### Properties -/

def meaning (n : TagName) : Reader String := do
  if n.handle.isEmpty then return n.suffix
  match (← get).handles.find? n.handle with
  | some leading => return leading ++ n.suffix
  | none => throw .handle

/-- Reads the anchor and the tag of a node, in any order. -/
def properties : Reader (Option String × Option String) := do
  match ← peek with
  | some (.anchor a) =>
    drop
    match ← peek with
    | some (.tag t) =>
      drop
      return (some a, some (← meaning t))
    | _ => return (some a, none)
  | some (.tag t) =>
    drop
    match ← peek with
    | some (.anchor a) =>
      drop
      return (some a, some (← meaning t))
    | _ => return (none, some (← meaning t))
  | _ => return (none, none)

/-- Puts a node that begins into the slot of its anchor, and gives the number of the node. A new anchor
takes the slot that is numbered with the names known so far. -/
def begin (anchor : Option String) : Reader (Option Nat) := do
  match anchor with
  | none => return none
  | some name =>
    let r ← get
    let slot := r.names.length
    set { r with
      names := r.names.insert name slot
      slots := (slot, r.begun) :: r.slots
      begun := r.begun + 1 }
    return some r.begun

def keep (number : Option Nat) (n : Node) : Reader Node := do
  match number with
  | none => return n
  | some i =>
    modify fun r => { r with nodes := (i, n) :: r.nodes }
    return n

def slot (name : String) : Reader Nat := do
  match (← get).names.find? name with
  | some s => return s
  | none => throw .unknownAnchor

/-! ### Nodes -/

mutual

/-- Reads a node, in at most so many steps. Block collections are only read where they may stand, and a
sequence without an indentation of its own only below a key. -/
def node (block unindented : Bool) : Nat → Reader Node
  | 0 => throw .tooDeep
  | steps + 1 => do
    match ← peek with
    | some (.alias name) =>
      drop
      count 1
      return .alias (← slot name)
    | _ =>
      let (anchor, tag) ← properties
      match ← peek with
      | some (.scalar plain text) =>
        drop
        count 1
        keep (← begin anchor) (.scalar tag plain text)
      | some .flowSequence =>
        drop
        collection anchor (.sequence tag <$> flowItems true steps)
      | some .flowMapping =>
        drop
        collection anchor (.mapping tag <$> flowPairs true steps)
      | some .blockEntry =>
        if unindented then collection anchor (.sequence tag <$> unindentedItems steps)
        else bare anchor tag
      | some .blockSequence =>
        if block then
          drop
          collection anchor (.sequence tag <$> blockItems steps)
        else bare anchor tag
      | some .blockMapping =>
        if block then
          drop
          collection anchor (.mapping tag <$> blockPairs steps)
        else bare anchor tag
      | _ => bare anchor tag
where
  /-- An empty node, which must have a property. -/
  bare (anchor tag : Option String) : Reader Node := do
    if anchor.isNone && tag.isNone then refuse
    count 1
    keep (← begin anchor) (.scalar tag true "")
  /-- A collection with an anchor. -/
  collection (anchor : Option String) (read : Reader Node) : Reader Node := do
    count 2
    let number ← begin anchor
    keep number (← read)

def blockItems : Nat → Reader (List Node)
  | 0 => throw .tooDeep
  | steps + 1 => do
    match ← peek with
    | some .blockEntry =>
      drop
      let item ← if ← atOne [.blockEntry, .blockEnd] then omitted else node true false steps
      return item :: (← blockItems steps)
    | _ =>
      expect .blockEnd
      return []

/-- Reads the entries of a sequence without an indentation of its own. -/
def unindentedItems : Nat → Reader (List Node)
  | 0 => throw .tooDeep
  | steps + 1 => do
    match ← peek with
    | some .blockEntry =>
      drop
      let item ← if ← atOne [.blockEntry, .key, .value, .blockEnd] then omitted
        else node true false steps
      return item :: (← unindentedItems steps)
    | _ => return []

def blockPairs : Nat → Reader (List (Node × Node))
  | 0 => throw .tooDeep
  | steps + 1 => do
    match ← peek with
    | some .key =>
      drop
      let key ← blockPart steps
      let value ← match ← peek with
        | some .value => do
          drop
          blockPart steps
        | _ => omitted
      return (key, value) :: (← blockPairs steps)
    | _ =>
      expect .blockEnd
      return []

/-- Reads a key or a value of a block mapping. -/
def blockPart : Nat → Reader Node
  | 0 => throw .tooDeep
  | steps + 1 => do
    if ← atOne [.key, .value, .blockEnd] then omitted else node true true steps

def flowItems (first : Bool) : Nat → Reader (List Node)
  | 0 => throw .tooDeep
  | steps + 1 => do
    if (← peek) == some .flowSequenceEnd then
      drop
      return []
    if !first then expect .flowEntry
    match ← peek with
    | some .flowSequenceEnd =>
      drop
      return []
    | some .key =>
      drop
      count 2
      let pair ← flowPair steps
      return .mapping none [pair] :: (← flowItems false steps)
    | _ =>
      let item ← node false false steps
      return item :: (← flowItems false steps)

/-- Reads the single pair of a mapping in a flow sequence. A key that is left out takes the token in its
place. -/
def flowPair : Nat → Reader (Node × Node)
  | 0 => throw .tooDeep
  | steps + 1 => do
    let key ← if ← atOne [.value, .flowEntry, .flowSequenceEnd] then do
        drop
        omitted
      else node false false steps
    let value ← match ← peek with
      | some .value => do
        drop
        if ← atOne [.flowEntry, .flowSequenceEnd] then omitted else node false false steps
      | _ => omitted
    return (key, value)

def flowPairs (first : Bool) : Nat → Reader (List (Node × Node))
  | 0 => throw .tooDeep
  | steps + 1 => do
    if (← peek) == some .flowMappingEnd then
      drop
      return []
    if !first then expect .flowEntry
    match ← peek with
    | some .flowMappingEnd =>
      drop
      return []
    | some .key =>
      drop
      let key ← if ← atOne [.value, .flowEntry, .flowMappingEnd] then omitted
        else node false false steps
      let value ← match ← peek with
        | some .value => do
          drop
          if ← atOne [.flowEntry, .flowMappingEnd] then omitted else node false false steps
        | _ => omitted
      return (key, value) :: (← flowPairs false steps)
    | _ =>
      let key ← node false false steps
      let value ← omitted
      return (key, value) :: (← flowPairs false steps)

end

/-! ### Documents -/

/-- Reads the directives before a document, at most so many. -/
def directives (versioned : Bool) : Nat → Reader Unit
  | 0 => return ()
  | steps + 1 => do
    match ← peek with
    | some (.version major minor) =>
      if versioned then throw .directive
      if major != 1 || (minor != 1 && minor != 2) then throw .version
      drop
      directives true steps
    | some (.handle handle leading) =>
      if (← get).handles.contains handle then throw .directive
      modify fun r => { r with handles := r.handles.insert handle leading }
      drop
      directives versioned steps
    | _ => return ()

def defaultHandles : List (String × String) := [("!", "!"), ("!!", "tag:yaml.org,2002:")]

/-- Gives the handles without a directive their meaning. -/
def addDefaults : Reader Unit :=
  modify fun r => { r with
    handles := defaultHandles.foldl (fun t h => t.insertNew h.1 h.2) r.handles }

def root : Reader Node := do
  match ← peek with
  | none => omitted
  | some (.version _ _) => omitted
  | some (.handle _ _) => omitted
  | some .documentStart => omitted
  | some .documentEnd => omitted
  | _ => node true false (4 * (← get).tokens.length + 4)

/-- Whether a document begins with its directives or its start. -/
def isMarked : Option Token → Bool
  | some (.version _ _) => true
  | some (.handle _ _) => true
  | some .documentStart => true
  | _ => false

/-- Reads a document that is not the end of the text. Only the first may begin without a mark. -/
def document (first : Bool) : Reader Document := do
  if first && !isMarked (← peek) then
    addDefaults
    let n ← node true false (4 * (← get).tokens.length + 4)
    finish n
  else
    directives false (← get).tokens.length
    addDefaults
    expect .documentStart
    let n ← root
    finish n
where
  /-- Ends a document. -/
  finish (n : Node) : Reader Document := do
    match ← peek with
    | some .documentEnd => drop
    | some (.invalid e) => throw e
    | _ => pure ()
    let r ← get
    return ⟨n, r.size, r.slots, r.nodes⟩

/-- Reads at most so many documents. -/
def documents (first : Bool) (tokens : List Token) : Nat → List (Except Error Document)
  | 0 => []
  | steps + 1 =>
    let tokens := if first then tokens else tokens.dropWhile (· == .documentEnd)
    if tokens.isEmpty then []
    else match (document first).run { tokens := tokens } with
      | .ok (d, r) => .ok d :: documents false r.tokens steps
      | .error e => [.error e]

end Reader

/-- The documents of a text, up to the first that has an error. -/
def Document.allOf (text : String) : List (Except Error Document) :=
  let tokens := Token.ofText text
  Reader.documents true tokens (tokens.length + 1)

end Yaml

end Reconciliation
