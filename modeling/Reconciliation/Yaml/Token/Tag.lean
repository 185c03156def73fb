import Reconciliation.Text.Digits
import Reconciliation.Yaml.Token
/-!
# Tags, anchors and directives

The tokens that say something about the nodes or the document after them. A tag is written whole, as
`!<tag:yaml.org,2002:str>`, or as a suffix of a handle, as `!!str`, whose meaning a directive may set.
-/

namespace Reconciliation

namespace Yaml

/-- A scanned token and the place after it. -/
abbrev Scan : Type := Except Error (Token × Cursor)

namespace Tag

/-- The other characters that may stand in a tag. -/
def marks : List Char :=
  [';', '/', '?', ':', '@', '&', '=', '+', '$', '.', '%', '!', '~', '*', '\x27', '(', ')']

/-- Whether a character may stand in a tag; some may only when the tag is written whole. -/
def isTagChar (whole : Bool) (c : Char) : Bool :=
  isNameChar c || marks.contains c || (whole && (c == ',' || c == '[' || c == ']'))

/-- How many octets encode a character whose first octet is given, and the bits of that octet which
count. -/
def octets? (first : Nat) : Option (Nat × Nat) :=
  if first < 0x80 then some (1, first)
  else if first / 0x20 = 6 then some (2, first % 0x20)
  else if first / 0x10 = 0xE then some (3, first % 0x10)
  else if first / 8 = 0x1E then some (4, first % 8)
  else none

/-- The octets that escapes at the head of a text stand for, at most so many. -/
def escaped? : Nat → List Char → Option (List Nat)
  | 0, _ => some []
  | n + 1, '%' :: a :: b :: rest => do
    return (← Text.radixValue? 16 [a, b]) :: (← escaped? n rest)
  | _, _ => none

/-- The character that escapes at the head of a text stand for, and how many escapes it took. -/
def character? (s : List Char) : Option (Char × Nat) := do
  let (count, bits) ← octets? (← (← escaped? 1 s).head?)
  let others := (← escaped? count s).drop 1
  if others.any fun o => o / 0x40 != 2 then none
  else
    let n := others.foldl (fun n o => n * 0x40 + o % 0x40) bits
    return (Char.ofNat n, count)

/-- Reads the characters of a tag, at most so many, and how many characters they took. -/
def text? (whole : Bool) : Nat → List Char → Option (List Char × Nat)
  | 0, _ => some ([], 0)
  | _, [] => some ([], 0)
  | steps + 1, c :: rest =>
    if !isTagChar whole c then some ([], 0)
    else if c == '%' then do
      let (x, count) ← character? (c :: rest)
      let (cs, width) ← text? whole steps (rest.drop (3 * count - 1))
      return (x :: cs, 3 * count + width)
    else do
      let (cs, width) ← text? whole steps rest
      return (c :: cs, width + 1)

def scanText (whole : Bool) (c : Cursor) : Except Error (List Char × Cursor) :=
  match text? whole c.rest.length c.rest with
  | some (cs, width) => .ok (cs, c.advance width)
  | none => .error .tag

/-- Scans a handle: an exclamation mark, or a name between two. The second may be missing. -/
def scanHandle (c : Cursor) : Except Error (List Char × Cursor) :=
  if c.rest.head? != some '!' then .error .tag
  else
    let (name, c) := (c.advance 1).span isNameChar
    if c.rest.head? == some '!' then .ok ('!' :: name ++ ['!'], c.advance 1)
    else .ok ('!' :: name, c)

/-- The tag of a handle without its end and the text after it. -/
def ofParts (handle text : List Char) : TagName :=
  let suffix := handle.drop 1 ++ text
  if suffix.isEmpty then ⟨"", "!"⟩ else ⟨"!", String.ofList suffix⟩

def scanName (c : Cursor) : Except Error (TagName × Cursor) :=
  if (c.rest.drop 1).head? == some '<' then do
    let (text, c) ← scanText true (c.advance 2)
    if text.isEmpty || c.rest.head? != some '>' then throw .tag
    return (⟨"", String.ofList text⟩, c.advance 1)
  else do
    let (handle, c) ← scanHandle c
    let (text, c) ← scanText false c
    if handle.length > 1 && handle.getLast? == some '!' then
      if text.isEmpty then throw .tag
      return (⟨String.ofList handle, String.ofList text⟩, c)
    else return (ofParts handle text, c)

/-- Scans a tag. A blank follows it, or a comma in a flow collection. -/
def scan (flow : Bool) (c : Cursor) : Scan := do
  let (name, c) ← scanName c
  if endsWord c.rest || (flow && c.rest.head? == some ',') then return (.tag name, c)
  else throw .tag

end Tag

namespace Anchor

/-- Whether the text after a name may follow it. -/
def mayFollow (s : List Char) : Bool :=
  endsWord s || s.head?.any fun c =>
    c == '?' || c == ':' || c == ',' || c == ']' || c == '\x7d' || c == '%' || c == '@' || c == '\x60'

/-- Scans an anchor, or an alias, after its indicator. -/
def scan (token : String → Token) (c : Cursor) : Scan :=
  let (name, c) := c.span isNameChar
  if name.isEmpty || !mayFollow c.rest then .error .anchorName
  else .ok (token (String.ofList name), c)

end Anchor

namespace Directive

def scanNumber (c : Cursor) : Except Error (Nat × Cursor) :=
  let (ds, c) := c.span Char.isDigit
  if ds.isEmpty || ds.length > 9 then .error .directive else .ok (Text.decimalValue ds, c)

def scanVersion (c : Cursor) : Scan := do
  let (major, c) ← scanNumber (c.skip isBlank)
  if c.rest.head? != some '.' then throw .directive
  let (minor, c) ← scanNumber (c.advance 1)
  return (.version major minor, c)

def scanHandle (c : Cursor) : Scan := do
  let (handle, c) ← Tag.scanHandle (c.skip isBlank)
  if handle.length > 1 && handle.getLast? != some '!' then throw .directive
  if !(c.rest.head?.any isBlank) then throw .directive
  let (text, c) ← Tag.scanText true (c.skip isBlank)
  if text.isEmpty || !endsWord c.rest then throw .directive
  return (.handle (String.ofList handle) (String.ofList text), c)

/-- Scans a directive from its indicator to the end of its line. -/
def scan (c : Cursor) : Scan := do
  let (name, c) := (c.advance 1).span isNameChar
  let (token, c) ← match String.ofList name with
    | "YAML" => scanVersion c
    | "TAG" => scanHandle c
    | _ => throw .directive
  let c := c.skip isBlank
  let c := if c.rest.head? == some '#' then c.skip fun _ => true else c
  if !endsWord c.rest then throw .directive
  return (token, c.next)

end Directive

end Yaml

end Reconciliation
