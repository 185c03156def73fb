import Reconciliation.Text.Quoted
/-!
# Kinds of resources

A resource names its kind by an API version and a kind. The API version is a group and a version with a
slash between them, or only a version for the core group, whose name is empty.

`TypeMeta.kind?` takes a name apart and `GroupVersionKind.apiVersion` puts it together again.
-/

namespace Reconciliation

/-- The API version and the kind that a resource carries. -/
structure TypeMeta where
  apiVersion : String
  kind : String
  deriving DecidableEq, Repr, Inhabited

structure GroupVersionKind where
  group : String
  version : String
  kind : String
  deriving DecidableEq, Repr, Inhabited

/-- Why an object cannot be stored as a resource. -/
inductive ResourceError where
  | untyped
  | incompleteTypes (types : TypeMeta)
  | unnamed (kind : String)
  | unwritable (detail : String)
  | unreadable (detail : String)
  | untracked
  | other (cause : String)
  deriving DecidableEq, Repr

namespace ResourceError

def cause : ResourceError → String
  | untyped => "object has no apiVersion/kind"
  | incompleteTypes types =>
    "incomplete type information: apiVersion=" ++ Text.quoted types.apiVersion
      ++ ", kind=" ++ Text.quoted types.kind
  | unnamed kind => kind ++ " has no metadata.name"
  | unwritable detail => "cannot serialize object: " ++ detail
  | unreadable detail => "not a Kubernetes object: " ++ detail
  | untracked => "object does not track a reconcile status"
  | other cause => cause

def message (e : ResourceError) : String :=
  "object is not a storable resource: " ++ e.cause

end ResourceError

namespace GroupVersionKind

/-- The group and the version with a slash between them, or the version of the core group. -/
def apiVersion (k : GroupVersionKind) : String :=
  if k.group.isEmpty then k.version else k.group ++ "/" ++ k.version

end GroupVersionKind

/-- The parts of a text before and after its first slash, all of it being the second part of a text
without one. -/
def splitGroup (s : String) : String × String :=
  let cs := s.toList
  match cs.dropWhile (· != '/') with
  | [] => ("", s)
  | _ :: version => (String.ofList (cs.takeWhile (· != '/')), String.ofList version)

def groupOf (apiVersion : String) : String :=
  (splitGroup apiVersion).1

namespace TypeMeta

/-- The kind that a resource names, or why it names none. -/
def kind? (t : TypeMeta) : Except ResourceError GroupVersionKind :=
  if t.kind.isEmpty || t.apiVersion.isEmpty then .error (.incompleteTypes t)
  else .ok ⟨(splitGroup t.apiVersion).1, (splitGroup t.apiVersion).2, t.kind⟩

end TypeMeta

end Reconciliation
