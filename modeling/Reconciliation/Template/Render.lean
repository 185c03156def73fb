import Reconciliation.Manifest
import Reconciliation.Template.Element
import Reconciliation.Template.Helper
/-!
# Rendering

Rendering is strict: a path to nothing fails, unless it is only asked whether it is there. Nothing is
escaped. `each` and `with` change the value that paths start at, and so does a partial. A partial that is
indented indents its lines: those that begin after a text that ended one. The block that a partial is handed
sees the scopes of the place where it stands, not those of the place where it is rendered.
-/

namespace Reconciliation

namespace Template

/-- A block that a partial is handed, and the scopes that it sees. -/
structure Handed where
  elements : List Element
  scopes : List Scope

/-- Where rendering stands: the template and its data, the scopes from the innermost outwards, what lines
are indented by, and what the partials around were handed, from the innermost outwards. -/
structure Context where
  template : Template
  root : Json
  scopes : List Scope
  indent : String := ""
  handed : List (Option Handed) := []

/-- The context of a template before it is rendered. -/
def Context.start (t : Template) (data : Json) : Context :=
  { template := t, root := data, scopes := [{ value := data }] }

def Context.inside (c : Context) (s : Scope) : Context :=
  { c with scopes := s :: c.scopes }

/-! ### Pages -/

/-- What has been rendered: a text, the number of texts in it that were indented, whether the last of them
ended a line, and whether the next one begins with its indentation; the partials that were defined; and the
template whose elements are being rendered, if these are not inside of a block. -/
structure Page where
  text : String := ""
  written : Nat := 0
  endsLine : Bool := false
  indents : Bool := false
  defined : Table (List Element) := []
  current : Option String := none

/-- Indents the lines of a text after the first. -/
def indentLines (indent : String) : List Char → List Char
  | [] => []
  | ['\n'] => ['\n']
  | '\n' :: rest => '\n' :: indent.toList ++ indentLines indent rest
  | c :: rest => c :: indentLines indent rest

namespace Page

def append (s : String) (p : Page) : Page :=
  { p with text := p.text ++ s }

/-- Adds a text, its lines indented. An empty line that it begins with is not, and a text that is empty
changes nothing. -/
def write (indent s : String) (p : Page) : Page :=
  match s.toList with
  | [] => p
  | c :: cs =>
    let start := if p.indents && !isLineEnd c then indent else ""
    let ends := (c :: cs).getLast?.any isLineEnd
    { p.append (start ++ String.ofList (indentLines indent (c :: cs))) with
      written := p.written + 1
      endsLine := ends
      indents := ends }

/-- Defines a partial. -/
def define (name : String) (elements : List Element) (p : Page) : Page :=
  { p with defined := p.defined.insert name elements }

/-- Begins the elements of a template, or with no name those of a block. -/
def enter (template : Option String) (p : Page) : Page :=
  { p with current := template }

end Page

abbrev Rendering : Type → Type := StateT Page (Except RenderError)

/-- Renders, and forgets afterwards which partials were defined on the way. -/
def forgetting (r : Rendering Unit) : Rendering Unit := do
  let defined := (← get).defined
  r
  modify fun p => { p with defined := defined }

/-- Renders what a tag stands for, its first text with an indentation or without. Where it writes nothing,
the text after it begins as if there was no tag. -/
def beginning (indents : Page → Bool) (r : Rendering Unit) : Rendering Unit := do
  let written := (← get).written
  let before := (← get).indents
  modify fun p => { p with indents := indents p }
  r
  modify fun p => if p.written = written then { p with indents := before } else p

/-! ### Operands -/

/-- The helper of a name, which must be one. -/
def helper (name : String) : Except RenderError Helper :=
  match Helper.ofName? name with
  | some h => .ok h
  | none => .error (.unknownHelper name)

mutual

def valueOf (c : Context) : Operand → Except RenderError (Option Json)
  | .literal j => .ok (some j)
  | .path _ p => p.value? c.root c.scopes
  | .call name os fs => do
    let i : Inputs := ⟨← valuesOf c os, ← optionsOf c fs⟩
    return some (← (← helper name).result i)

def valuesOf (c : Context) : List Operand → Except RenderError (List (Option Json))
  | [] => .ok []
  | o :: os => do return (← valueOf c o) :: (← valuesOf c os)

def optionsOf (c : Context) : List (String × Operand) → Except RenderError (Table (Option Json))
  | [] => .ok []
  | (k, o) :: os => do return (k, ← valueOf c o) :: (← optionsOf c os)

end

def inputsOf (c : Context) (a : Arguments) : Except RenderError Inputs := do
  return ⟨← valuesOf c a.operands, ← optionsOf c a.options⟩

/-- The word that an operand is, if it is taken for the name of a helper. -/
def word (c : Context) : Operand → Except RenderError String
  | .path text _ => .ok text
  | o => do return textOf ((← valueOf c o).getD .null)

def give (c : Context) (j : Json) : Rendering Unit :=
  modify (Page.write c.indent (textOf j))

/-- Gives out the result of a helper. A truth value stands where it is and is not indented. -/
def giveResult (c : Context) (h : Helper) (i : Inputs) : Rendering Unit := do
  let j ← h.result i
  if h.isTest then modify (Page.append (textOf j)) else give c j

/-- Gives out an operand. A word that is a helper is one without operands. -/
def giveOperand (c : Context) (o : Operand) : Rendering Unit := do
  match Helper.ofName? (← word c o) with
  | some h => giveResult c h ⟨[], []⟩
  | none =>
    match ← valueOf c o with
    | some j => give c j
    | none => throw (.missing (some (← word c o)))

/-! ### Blocks -/

/-- The names that a loop gives to a value and to its number or key. -/
def loopNames (names : List String) (j key : Json) : Table Json :=
  Table.ofList ((names.head?.map (·, j)).toList ++ ((names.drop 1).head?.map (·, key)).toList)

def arrayScopes (names : List String) (js : List Json) : List Scope :=
  js.mapIdx fun i j =>
    let index := Json.int i
    { value := j
      markers := Table.ofList [
        ("first", .bool (i == 0)), ("last", .bool (i + 1 == js.length)), ("index", index)]
      names := loopNames names j index }

def objectScopes (names : List String) (fs : List (String × Json)) : List Scope :=
  fs.mapIdx fun i f =>
    let key := Json.string f.1
    { value := f.2
      markers := Table.ofList [
        ("first", .bool (i == 0)), ("last", .bool (i + 1 == fs.length)), ("index", .int i), ("key", key)]
      names := loopNames names f.2 key }

/-- The scopes of a loop over a value. An empty collection has none if there is an alternative. -/
def loopScopes? (names : List String) (alternative : Bool) : Json → Option (List Scope)
  | .array js => if js.isEmpty && alternative then none else some (arrayScopes names js)
  | .object fs => if fs.isEmpty && alternative then none else some (objectScopes names fs)
  | _ => none

/-- What is rendered of a block: its body in the scopes around, its body once in each of some scopes, its
alternative, or a value in its place. -/
inductive Choice where
  | body
  | inside (scopes : List Scope)
  | alternative
  | value (j : Json)

/-- The body or the alternative of a block. -/
def Choice.ofBool (b : Bool) : Choice :=
  if b then body else alternative

def choose (h : Helper) (names : List String) (alternative : Bool) (i : Inputs) :
    Except RenderError Choice :=
  match h with
  | .ifTrue => do return .ofBool (isTruthy i.zeroIsTrue (← i.operand "if" 0))
  | .ifFalse => do return .ofBool (!isTruthy i.zeroIsTrue (← i.operand "unless" 0))
  | .each => do
    let j ← i.operand "each" 0
    match loopScopes? names alternative j with
    | some scopes => return .inside scopes
    | none => if alternative then return .alternative else throw (.missing none)
  | .within => do
    let j ← i.operand "with" 0
    if isTruthy false j then
      let own : Table Json := match names with
        | [name] => [(name, j)]
        | _ => []
      return .inside [{ value := j, names := own }]
    else if alternative then return .alternative
    else throw (.missing none)
  | .raw => .ok .body
  | h => do
    let j ← h.result i
    return if h.isTest then .ofBool (isTruthy false j) else .value j

/-! ### Partials -/

/-- The name of the block that a partial was handed. -/
def handedBlock : String := "@partial-block"

/-- The fields of a value: those of an object, and the items of an array or the characters of a text under
their numbers. -/
def fieldsOf : Json → Table Json
  | .object fs => fs
  | .array js => .ofList (js.mapIdx fun n j => (toString n, j))
  | .string s => .ofList (s.toList.mapIdx fun n c => (toString n, .string c.toString))
  | _ => []

/-- The scope of a partial in the scopes around it. Its value is what it is handed, or else the value around;
options are further fields of it, and names too. -/
def partialScope (i : Inputs) (around : List Scope) : Scope :=
  let base := match i.values.head? with
    | some j => j.getD .null
    | none => (around.head?.map (·.value)).getD .null
  let options : Table Json := i.options.map fun o => (o.1, o.2.getD .null)
  if options.isEmpty then { value := base }
  else
    { value := .object (options.foldl (fun (t : Table Json) o => t.insert o.1 o.2) (fieldsOf base))
      names := options }

/-- A partial: its elements, the template that it is, if it is one, and where it is rendered. -/
structure Partial where
  elements : List Element
  template : Option String := none
  context : Context

/-- The context of a partial in the scopes around it. A block that it is handed sees its scope. -/
def Context.insertion (c : Context) (i : Inputs) (around : List Scope) (body : Option (List Element)) :
    Context :=
  let scopes := partialScope i around :: around
  { c with scopes := scopes, handed := body.map (⟨·, scopes⟩) :: c.handed }

/-- The partial of a name. A block that the partial is handed stands in for one that is not defined. -/
def partialOf (c : Context) (p : Page) (name : String) (i : Inputs) (body : Option (List Element)) :
    Except RenderError Partial :=
  let block := if name = handedBlock then c.handed.head?.join else none
  let defined := if name = handedBlock then none else p.defined.find? name
  if p.current == some name then .error .ownPartial
  else match block with
    | some h =>
      .ok ⟨h.elements, none, { c.insertion i h.scopes none with handed := c.handed.drop 1 }⟩
    | none =>
      match defined with
      | some es => .ok ⟨es, none, c.insertion i c.scopes body⟩
      | none =>
        if name = c.template.name then .ok ⟨c.template.elements, some name, c.insertion i c.scopes body⟩
        else match body with
          | some es => .ok ⟨es, none, c.insertion i c.scopes none⟩
          | none => .error (.unknownPartial name)

def partialName (c : Context) : PartialName → Except RenderError String
  | .word w => .ok w
  | .operand o => word c o

/-- Makes the definition of a partial. -/
def define (c : Context) (head : Head) (body : List Element) : Rendering Unit := do
  let i ← inputsOf c head.arguments
  if head.helper != "inline" then throw (.unknownDecorator head.helper)
  match i.values.head? with
  | some (some (.string name)) => modify (Page.define name body)
  | _ => throw .definition

/-- Fails, because a decorator without a block defines nothing. -/
def decorate (c : Context) (head : Head) : Rendering Unit := do
  let _ ← inputsOf c head.arguments
  throw (if head.helper = "inline" then .definition else .unknownDecorator head.helper)

/-- Makes the definitions among elements. -/
def defineAll (c : Context) (es : List Element) : Rendering Unit :=
  es.forM fun
    | .definition head body => define c head body
    | .decorator head => decorate c head
    | _ => return ()

/-! ### Elements -/

mutual

/-- Renders an element; partials are rendered by the given function. -/
def renderElement (insert : Context → List Element → Rendering Unit) (c : Context) :
    Element → Rendering Unit
  | .text s => modify (Page.write c.indent s)
  | .output o => giveOperand c o
  | .call name a => do giveResult c (← helper name) (← inputsOf c a)
  | .block head alone body alternative => do
    let i ← inputsOf c head.arguments
    let choice ← choose (← helper head.helper) head.names alternative.isSome i
    beginning (fun p => p.indents || (alone && p.endsLine))
      (match choice with
      | .value j => give c j
      | .body => do
        modify (Page.enter none)
        renderAll insert c body
      | .inside scopes =>
        forgetting (scopes.forM fun s => do
          modify (Page.enter none)
          renderAll insert (c.inside s) body)
      | .alternative =>
        match alternative with
        | some es => do
          modify (Page.enter none)
          renderAll insert c es
        | none => return ())
  | .decorator head => decorate c head
  | .definition head body => define c head body
  | .insertion name a place body => do
    let name ← partialName c name
    let i ← inputsOf c a
    defineAll c (body.getD [])
    let current := (← get).current
    let found ← partialOf { c with indent := c.indent ++ place.indent } (← get) name i body
    beginning (fun p => place.alone && (p.endsLine || !place.indent.isEmpty))
      (forgetting (do
        modify (Page.enter found.template)
        insert found.context found.elements))
    modify (Page.enter current)

def renderAll (insert : Context → List Element → Rendering Unit) (c : Context) :
    List Element → Rendering Unit
  | [] => return ()
  | e :: es => do
    renderElement insert c e
    renderAll insert c es

end

/-- Renders elements, partials nested at most so deep. -/
def renderTo : Nat → Context → List Element → Rendering Unit
  | 0 => fun _ _ => throw .tooDeep
  | depth + 1 => renderAll (renderTo depth)

def maxDepth : Nat := 256

def render (t : Template) (data : Json) : Except TemplateError String :=
  match (renderTo maxDepth (.start t data) t.elements).run { current := some t.name } with
  | .ok ((), p) => .ok p.text
  | .error e => .error (.render e.message)

def resources (t : Template) (data : Json) : Except TemplateError (List DynamicObject) := do
  Manifest.parse (← t.render data)

end Template

end Reconciliation
