import Reconciliation.Resource.Kind
/-!
# API resources

A cluster serves a kind under the path of its group and version and a plural name. Without asking the
cluster the plural is derived from the kind, and a resource is taken to be namespaced when its object has
a namespace.
-/

namespace Reconciliation

structure ApiResource where
  group : String
  version : String
  apiVersion : String
  kind : String
  plural : String
  deriving DecidableEq, Repr, Inhabited

namespace ApiResource

def irregularPlurals : List (String × String) := [
  ("endpoints", "endpoints"), ("endpointslices", "endpointslices"), ("nodemetrics", "nodes"),
  ("podmetrics", "pods")]

/-- The endings after which a plural takes `es`. -/
def sibilants : List (List Char) := [['s'], ['x'], ['z'], ['c', 'h'], ['s', 'h']]

def isVowel (c : Char) : Bool :=
  ['a', 'e', 'i', 'o', 'u'].contains c

/-- The character that decides over a final `y`: the one before it. The place is counted in bytes, so
beyond ASCII it moves towards the end and past it. -/
def beforeLast? (word : String) : Option Char :=
  if word.utf8ByteSize < 2 then none else word.toList[word.utf8ByteSize - 2]?

def pluralOf (word : String) : String :=
  match irregularPlurals.find? fun p => p.1 == word with
  | some p => p.2
  | none =>
    let cs := word.toList
    if sibilants.any fun ending => ending.isSuffixOf cs then word ++ "es"
    else if cs.getLast? == some 'y' then
      match beforeLast? word with
      | some c => if isVowel c then word ++ "s" else String.ofList cs.dropLast ++ "ies"
      | none => word ++ "s"
    else word ++ "s"

def ofKind (k : GroupVersionKind) : ApiResource :=
  ⟨k.group, k.version, k.apiVersion, k.kind, pluralOf k.kind.toLower⟩

/-- The path under which objects of the resource are found, in a namespace or over all. -/
def path (r : ApiResource) (nameSpace : Option String) : String :=
  (if r.group.isEmpty then "/api/" else "/apis/") ++ r.apiVersion
    ++ (match nameSpace with
      | none => ""
      | some ns => "/namespaces/" ++ ns)
    ++ "/" ++ r.plural

end ApiResource

end Reconciliation
