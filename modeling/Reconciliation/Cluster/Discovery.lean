import Reconciliation.Cluster.Collection
/-!
# Discovery

A cluster says which resources it serves: it lists its groups, the versions of each group, and for each
version the resources with their kinds and whether they are namespaced. The core group is listed apart
from the named ones and has its own path.

`Discovery.run` asks for everything and `Discovery.resolve?` looks a kind up in the answers;
`Discovery.pin` asks for the version of one kind alone. A resource whose name has a slash belongs to
another resource and serves no kind of its own.
-/

namespace Reconciliation

/-- A resource that a cluster serves, and whether its objects are in namespaces. -/
structure ServedResource where
  resource : ApiResource
  namespaced : Bool
  deriving DecidableEq, Repr

/-! ### What a cluster lists -/

structure ListedVersion where
  groupVersion : String
  version : String

structure ListedGroup where
  name : String
  versions : List ListedVersion

structure ListedResource where
  group : Option String
  version : Option String
  kind : String
  name : String
  namespaced : Bool

structure ResourceList where
  groupVersion : String
  resources : List ListedResource

namespace ListedVersion

def decode : Decoder ListedVersion := fun w => do
  let fs ← Decoder.fields "GroupVersionForDiscovery" w
  return {
    groupVersion := ← Decoder.withDefault fs "groupVersion" Decoder.text ""
    version := ← Decoder.withDefault fs "version" Decoder.text "" }

end ListedVersion

def decodeServerAddress : Decoder Unit := fun w => do
  let fs ← Decoder.fields "ServerAddressByClientCIDR" w
  discard <| Decoder.optional fs "clientCIDR" Decoder.text
  discard <| Decoder.optional fs "serverAddress" Decoder.text

/-- Refuses a list that says that it is one of other things. -/
def checkListKind (fs : Decoder.Fields) (kind : String) : Except DecodeError Unit := do
  Decoder.constant fs "apiVersion" "v1"
  Decoder.constant fs "kind" kind

namespace ListedGroup

def decode : Decoder ListedGroup := fun w => do
  let fs ← Decoder.fields "APIGroup" w
  checkListKind fs "APIGroup"
  discard <| Decoder.optional fs "preferredVersion" ListedVersion.decode
  discard <| Decoder.optional fs "serverAddressByClientCIDRs" (Decoder.list decodeServerAddress)
  return {
    name := ← Decoder.withDefault fs "name" Decoder.text ""
    versions := ← Decoder.withDefault fs "versions" (Decoder.list ListedVersion.decode) [] }

def decodeList : Decoder (List ListedGroup) := fun w => do
  let fs ← Decoder.fields "APIGroupList" w
  checkListKind fs "APIGroupList"
  Decoder.withDefault fs "groups" (Decoder.list ListedGroup.decode) []

def decodeCoreVersions : Decoder (List String) := fun w => do
  let fs ← Decoder.fields "APIVersions" w
  checkListKind fs "APIVersions"
  discard <| Decoder.optional fs "serverAddressByClientCIDRs" (Decoder.list decodeServerAddress)
  Decoder.withDefault fs "versions" (Decoder.list Decoder.text) []

end ListedGroup

namespace ListedResource

def decode : Decoder ListedResource := fun w => do
  let fs ← Decoder.fields "APIResource" w
  for name in ["categories", "shortNames", "verbs"] do
    discard <| Decoder.optional fs name (Decoder.list Decoder.text)
  for name in ["singularName", "storageVersionHash"] do
    discard <| Decoder.optional fs name Decoder.text
  return {
    group := ← Decoder.optional fs "group" Decoder.text
    version := ← Decoder.optional fs "version" Decoder.text
    kind := ← Decoder.withDefault fs "kind" Decoder.text ""
    name := ← Decoder.withDefault fs "name" Decoder.text ""
    namespaced := ← Decoder.withDefault fs "namespaced" Decoder.bool false }

/-- Whether a resource serves a kind of its own. -/
def isPrimary (r : ListedResource) : Bool :=
  !r.name.toList.contains '/'

end ListedResource

namespace ResourceList

def decode : Decoder ResourceList := fun w => do
  let fs ← Decoder.fields "APIResourceList" w
  checkListKind fs "APIResourceList"
  return {
    groupVersion := ← Decoder.withDefault fs "groupVersion" Decoder.text ""
    resources := ← Decoder.withDefault fs "resources" (Decoder.list ListedResource.decode) [] }

/-- The resource of a list entry. It is found under the version of the list, whatever group and version
the entry gives it. -/
def resourceOf (l : ResourceList) (r : ListedResource) : ApiResource :=
  let (group, version) := splitGroup l.groupVersion
  { group := r.group.getD group
    version := r.version.getD version
    apiVersion := (GroupVersionKind.mk group version r.kind).apiVersion
    kind := r.kind
    plural := r.name }

/-- Whether the objects of a resource are in namespaces: the first entry of that name decides. -/
def isNamespaced (l : ResourceList) (name : String) : Bool :=
  ((l.resources.find? (·.name == name)).map ListedResource.namespaced).getD false

def served (l : ResourceList) : List ServedResource :=
  (l.resources.filter ListedResource.isPrimary).map fun r => ⟨l.resourceOf r, l.isNamespaced r.name⟩

/-- The resource of a list that serves a kind: the first of that name. -/
def serving? (l : ResourceList) (kind : String) : Option ServedResource :=
  l.served.find? (·.resource.kind == kind)

end ResourceList

/-! ### Asking a cluster -/

/-- What a cluster serves: the versions of its groups, and the resources of each version. -/
structure Discovery where
  groups : Table (List (String × List ServedResource))

namespace Discovery

def listRequest (target : String) : Except ClusterError Request :=
  match Target.path? target with
  | some path => .ok ⟨.get, path, none⟩
  | none => .error (.invalidPath "invalid uri character")

def list {α : Type} (target : String) (decode : Decoder α) : Attempt α :=
  Exchange.submit decode (listRequest target)

def listNamed (groupVersion : String) : Attempt ResourceList :=
  list ("/apis/" ++ groupVersion) ResourceList.decode

def listCore (version : String) : Attempt ResourceList :=
  list ("/api/" ++ version) ResourceList.decode

def checkVersions {α : Type} (group : String) (versions : List α) : Attempt Unit :=
  Exchange.known
    (if versions.isEmpty then .error (.discovery (.emptyGroup group)) else .ok ())

def runGroup (g : ListedGroup) : Attempt (List (String × List ServedResource)) := do
  checkVersions g.name g.versions
  g.versions.mapM fun v => do return (v.version, (← listNamed v.groupVersion).served)

def runCore : Attempt (List (String × List ServedResource)) := do
  let versions ← list "/api" ListedGroup.decodeCoreVersions
  checkVersions "" versions
  versions.mapM fun v => do return (v, (← listCore v).served)

/-- Asks for everything that a cluster serves, the named groups first. -/
def run : Attempt Discovery := do
  let groups ← list "/apis" ListedGroup.decodeList
  let named ← groups.mapM fun g => do return (g.name, ← runGroup g)
  let core ← runCore
  return ⟨.ofList (named ++ [("", core)])⟩

def resolve? (d : Discovery) (k : GroupVersionKind) : Option ServedResource := do
  let versions ← d.groups.find? k.group
  let (_, served) ← versions.find? (·.1 == k.version)
  served.find? (·.resource.kind == k.kind)

def pin (k : GroupVersionKind) : Attempt ServedResource := do
  let l ← if k.group.isEmpty then listCore k.apiVersion else listNamed k.apiVersion
  Exchange.known (match l.serving? k.kind with
    | some r => .ok r
    | none => .error (.discovery (.missingKind k)))

/-- The resource that serves a kind, as far as it is known: without an answer of the cluster it is derived
from the kind, and its objects are in namespaces if the one in hand is. -/
def resolve (d : Option Discovery) (k : GroupVersionKind) (hasNamespace : Bool) : ServedResource :=
  match d.bind (·.resolve? k) with
  | some r => r
  | none => ⟨.ofKind k, hasNamespace⟩

end Discovery

end Reconciliation
