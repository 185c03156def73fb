import Reconciliation.Resource.Kind
/-!
# Errors

The failures of a cluster, of an object store, of manifest templates and of a reconciler, each with its
text. A store tells a missing object, an existing one and a stale write apart from all other failures,
because the synchronizer treats some of them as success; `StoreError.ofCluster` draws that line for
answers of a cluster.
-/

namespace Reconciliation

structure ErrorResponse where
  status : String
  message : String
  reason : String
  code : Nat
  deriving DecidableEq, Repr, Inhabited

/-- Why the kinds that a cluster serves cannot be found out. -/
inductive DiscoveryError where
  | missingKind (kind : GroupVersionKind)
  | emptyGroup (name : String)
  | invalidGroupVersion (text : String)
  | missingResource (name : String)
  deriving DecidableEq, Repr

namespace DiscoveryError

def message : DiscoveryError → String
  | missingKind k =>
    "Missing Kind: GroupVersionKind \x7b group: " ++ Text.quoted k.group
      ++ ", version: " ++ Text.quoted k.version ++ ", kind: " ++ Text.quoted k.kind ++ " \x7d"
  | emptyGroup name => "Empty Api Group: " ++ name
  | invalidGroupVersion text => "Invalid GroupVersion: " ++ text
  | missingResource name => "Missing Resource: " ++ name

end DiscoveryError

inductive ClusterError where
  | response (error : ErrorResponse)
  | transport (detail : String)
  | undecodable (detail : String)
  | unaddressable (detail : String)
  | invalidPath (detail : String)
  | notUtf8 (detail : String)
  | discovery (error : DiscoveryError)
  | endlessLine
  | noTls
  deriving DecidableEq, Repr

namespace ClusterError

def message : ClusterError → String
  | response e =>
    "ApiError: " ++ e.message ++ ": " ++ e.reason ++ " (ErrorResponse \x7b status: "
      ++ Text.quoted e.status ++ ", message: " ++ Text.quoted e.message ++ ", reason: "
      ++ Text.quoted e.reason ++ ", code: " ++ toString e.code ++ " \x7d)"
  | transport detail => "ServiceError: " ++ detail
  | undecodable detail => "Error deserializing response: " ++ detail
  | unaddressable detail => "Failed to build request: " ++ detail
  | invalidPath detail => "HttpError: " ++ detail
  | notUtf8 detail => "UTF-8 Error: " ++ detail
  | discovery e => "Error from discovery: " ++ e.message
  | endlessLine => "Error finding newline character"
  | noTls => "TLS required but no TLS stack selected"

end ClusterError

/-- Why a store did not do what it was asked for. -/
inductive StoreError where
  | notFound (kind name : String)
  | alreadyExists (kind name : String)
  | conflict (kind name message : String)
  | api (error : ClusterError)
  | serialization (detail : String)
  | invalid (detail : String)
  | unavailable (detail : String)
  deriving DecidableEq, Repr

namespace StoreError

def message : StoreError → String
  | notFound kind name => kind ++ " " ++ name ++ " not found"
  | alreadyExists kind name => kind ++ " " ++ name ++ " already exists"
  | conflict kind name m => "conflict writing " ++ kind ++ " " ++ name ++ ": " ++ m
  | api e => "Kubernetes API error: " ++ e.message
  | serialization detail => "failed to serialize object: " ++ detail
  | invalid detail => "invalid object: " ++ detail
  | unavailable detail => "object store unavailable: " ++ detail

def isNotFound : StoreError → Bool
  | notFound _ _ => true
  | _ => false

def isAlreadyExists : StoreError → Bool
  | alreadyExists _ _ => true
  | _ => false

def isConflict : StoreError → Bool
  | conflict _ _ _ => true
  | _ => false

/-- The failure of a store whose cluster failed: an answer of code 404 means a missing object, and one of
code 409 an existing object or a stale write, by its reason. -/
def ofCluster (e : ClusterError) (kind name : String) : StoreError :=
  match e with
  | .response r =>
    if r.code = 404 then notFound kind name
    else if r.code = 409 then
      if r.reason = "AlreadyExists" then alreadyExists kind name else conflict kind name r.message
    else api e
  | e => api e

end StoreError

inductive TemplateError where
  | compile (name detail : String)
  | render (detail : String)
  | parse (detail : String)
  | resource (detail : String)
  deriving DecidableEq, Repr

namespace TemplateError

def message : TemplateError → String
  | compile name detail => "invalid template " ++ name ++ ": " ++ detail
  | render detail => "failed to render template: " ++ detail
  | parse detail => "rendered manifest is not a list of resources: " ++ detail
  | resource detail => "rendered manifest entry is not a resource: " ++ detail

end TemplateError

inductive ReconcileError where
  | store (error : StoreError)
  | typeMismatch (error : ResourceError)
  | statusPersist (error : StoreError)
  | template (error : TemplateError)
  | noClient
  | discovery (error : ClusterError)
  deriving DecidableEq, Repr

namespace ReconcileError

def message : ReconcileError → String
  | store e => e.message
  | typeMismatch e => e.message
  | statusPersist e => "failed to persist reconcile status: " ++ e.message
  | template e => e.message
  | noClient => "no Kubernetes client configured"
  | discovery e => "discovery failed: " ++ e.message

end ReconcileError

end Reconciliation
