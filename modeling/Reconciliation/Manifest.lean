import Reconciliation.Error
import Reconciliation.Resource.Dynamic
import Reconciliation.Yaml.Value
/-!
# Manifests

A manifest is a text of YAML documents. A document is a resource, a sequence of documents or a list,
which is a mapping of kind `List` whose field `items` is a document again; nothing is an empty document.
The resources of a manifest are those of its documents, from left to right. The first document that
cannot be read, or is no resource, fails the manifest.
-/

namespace Reconciliation

namespace Manifest

def isList (pairs : List (Yaml × Yaml)) : Bool :=
  (Yaml.field? pairs "kind").bind Yaml.text? == some "List"

def resource (y : Yaml) : Except TemplateError DynamicObject :=
  match y.toJson with
  | .error e => .error (.parse e.message)
  | .ok j =>
    match DynamicObject.ofJson j with
    | .error e => .error (.resource e.message)
    | .ok o => .ok o

mutual

def collect : Yaml → Except TemplateError (List DynamicObject)
  | .null => .ok []
  | .sequence ys => collectAll ys
  | .mapping ps =>
    if isList ps then collectItems ps else (resource (.mapping ps)).map ([·])
  | y => (resource y).map ([·])

def collectAll : List Yaml → Except TemplateError (List DynamicObject)
  | [] => .ok []
  | y :: ys => do return (← collect y) ++ (← collectAll ys)

def collectItems : List (Yaml × Yaml) → Except TemplateError (List DynamicObject)
  | [] => .ok []
  | (k, v) :: ps => if k.same (.string "items") then collect v else collectItems ps

end

def collectRead : List (Except Yaml.Error Yaml) → Except TemplateError (List DynamicObject)
  | [] => .ok []
  | .error e :: _ => .error (.parse e.message)
  | .ok y :: rest => do return (← collect y) ++ (← collectRead rest)

def parse (text : String) : Except TemplateError (List DynamicObject) :=
  collectRead (Yaml.allOfText text)

end Manifest

end Reconciliation
