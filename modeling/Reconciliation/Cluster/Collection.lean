import Reconciliation.Cluster.ApiResource
import Reconciliation.Cluster.Http
/-!
# Collections of objects

The objects of a resource, in one namespace or all together, are a collection. It has a path, each of its
objects an item path below, and the status of an object a path below that. Objects are created in the
collection and read, replaced and deleted at their item path.

Each operation sends one request, or none if the request cannot be written down.
-/

namespace Reconciliation

/-- The objects of a resource in a namespace, or all of them. -/
structure Collection where
  resource : ApiResource
  nameSpace : Option String
  deriving DecidableEq, Repr

namespace Collection

def path (c : Collection) : String :=
  c.resource.path c.nameSpace

def itemPath (c : Collection) (name : String) : String :=
  c.path ++ "/" ++ name

def statusPath (c : Collection) (name : String) : String :=
  c.itemPath name ++ "/status"

/-! ### Requests -/

/-- A request to a target, unless the target is no valid one. -/
def request (method : Method) (target : String) (body : Option Json) : Except ClusterError Request :=
  match Target.path? target with
  | some path => .ok ⟨method, path, body⟩
  | none => .error (.unaddressable "invalid uri character")

/-- A request about a named object, unless the name is empty. -/
def namedRequest (method : Method) (target : String → String) (name : String) (body : Option Json) :
    Except ClusterError Request :=
  if name = "" then .error (.unaddressable "A non-empty name is required.")
  else request method (target name) body

def bodyOf (o : DynamicObject) : Except ClusterError Json :=
  match o.toJson with
  | .ok j => .ok j
  | .error detail => .error (.undecodable detail)

def getRequest (c : Collection) (name : String) : Except ClusterError Request :=
  namedRequest .get c.itemPath name none

def createRequest (c : Collection) (o : DynamicObject) : Except ClusterError Request := do
  request .post c.path (some (← bodyOf o))

def replaceRequest (c : Collection) (name : String) (o : DynamicObject) :
    Except ClusterError Request := do
  namedRequest .put c.itemPath name (some (← bodyOf o))

def replaceStatusRequest (c : Collection) (name : String) (body : Json) : Except ClusterError Request :=
  namedRequest .put c.statusPath name (some body)

def deleteRequest (c : Collection) (name : String) : Except ClusterError Request :=
  namedRequest .delete c.itemPath name (some (.object []))

/-! ### Exchanges -/

def askObject (r : Except ClusterError Request) : Attempt DynamicObject :=
  Exchange.submit DynamicObject.decode r

def get (c : Collection) (name : String) : Attempt DynamicObject :=
  askObject (c.getRequest name)

def create (c : Collection) (o : DynamicObject) : Attempt DynamicObject :=
  askObject (c.createRequest o)

def replace (c : Collection) (name : String) (o : DynamicObject) : Attempt DynamicObject :=
  askObject (c.replaceRequest name o)

def replaceStatus (c : Collection) (name : String) (body : Json) : Attempt DynamicObject :=
  askObject (c.replaceStatusRequest name body)

/-! ### Deletion -/

def summaries : List String := ["Success", "Failure"]

/-- Reads the word for how an operation ended, which may also be the only name of an object. -/
def decodeSummary : Decoder Unit := fun w =>
  match w, w.fields? with
  | .value (.string s), _ => known s
  | _, some [(name, .value .null)] => known name
  | _, _ => .error (.mismatch w "string or map")
where
  /-- Refuses other words. -/
  known (s : String) : Except DecodeError Unit :=
    if summaries.contains s then .ok () else .error (.malformed "unknown variant")

def causeFields : List String := ["reason", "message", "field"]

def decodeCause : Decoder Unit := fun w => do
  let fs ← Decoder.record "a cause" causeFields w
  for name in causeFields do
    discard <| Decoder.defaulted fs name Decoder.text ""

def decodeDetails : Decoder Unit := fun w => do
  let fs ← Decoder.record "details"
    ["name", "group", "kind", "uid", "causes", "retryAfterSeconds"] w
  for name in ["name", "group", "kind", "uid"] do
    discard <| Decoder.defaulted fs name Decoder.text ""
  discard <| Decoder.defaulted fs "causes" (Decoder.list decodeCause) []
  discard <| Decoder.defaulted fs "retryAfterSeconds" (Decoder.unsigned 32) 0

def decodeReport : Decoder Unit := fun w => do
  let fs ← Decoder.record "a report" ["status", "code", "message", "reason", "details"] w
  discard <| Decoder.optional fs "status" decodeSummary
  discard <| Decoder.defaulted fs "code" (Decoder.unsigned 16) 0
  for name in ["message", "reason"] do
    discard <| Decoder.defaulted fs name Decoder.text ""
  discard <| Decoder.optional fs "details" decodeDetails

/-- Reads the answer to a deletion: a report that the object is gone, or the object that is on its way
out. All that is written must stand for something. -/
def decodeDeleted : Decoder Unit := fun w => do
  match (← Decoder.any w).field? "kind" with
  | some (.string "Status") => decodeReport w
  | _ => discard <| DynamicObject.decode w

def delete (c : Collection) (name : String) : Attempt Unit :=
  Exchange.submit decodeDeleted (c.deleteRequest name)

end Collection

end Reconciliation
