import Reconciliation.Cluster.Target
import Reconciliation.Dialogue
import Reconciliation.Error
import Reconciliation.Json.Reader
import Reconciliation.Resource.Dynamic
/-!
# Exchanges with a cluster

A cluster is asked over HTTP. An exchange is a dialogue whose questions are requests and whose answers
are replies; who replies is chosen when it is run.

A reply of the client or server error class is an error of the cluster, whose code and reason are taken
from its body as far as the body can be read. Every other reply is a success.
-/

namespace Reconciliation

inductive Method where
  | get
  | post
  | put
  | patch
  | delete
  deriving DecidableEq, Repr

def Method.name : Method → String
  | get => "GET"
  | post => "POST"
  | put => "PUT"
  | patch => "PATCH"
  | delete => "DELETE"

structure Request where
  method : Method
  path : String
  body : Option Json

/-- What comes back for a request: a status with a body, or nothing because the request got lost. -/
inductive Reply where
  | response (status : Nat) (body : String)
  | lost (detail : String)

abbrev Exchange (α : Type) : Type := Dialogue (fun _ : Request => Reply) α

abbrev Attempt (α : Type) : Type := ExceptT ClusterError Exchange α

namespace Reply

def phrases : List (Nat × String) := [
  (400, "Bad Request"), (401, "Unauthorized"), (402, "Payment Required"), (403, "Forbidden"),
  (404, "Not Found"), (405, "Method Not Allowed"), (406, "Not Acceptable"),
  (407, "Proxy Authentication Required"), (408, "Request Timeout"), (409, "Conflict"), (410, "Gone"),
  (411, "Length Required"), (412, "Precondition Failed"), (413, "Payload Too Large"),
  (414, "URI Too Long"), (415, "Unsupported Media Type"), (416, "Range Not Satisfiable"),
  (417, "Expectation Failed"), (418, "I'm a teapot"), (421, "Misdirected Request"),
  (422, "Unprocessable Entity"), (423, "Locked"), (424, "Failed Dependency"), (425, "Too Early"),
  (426, "Upgrade Required"), (428, "Precondition Required"), (429, "Too Many Requests"),
  (431, "Request Header Fields Too Large"), (451, "Unavailable For Legal Reasons"),
  (500, "Internal Server Error"), (501, "Not Implemented"), (502, "Bad Gateway"),
  (503, "Service Unavailable"), (504, "Gateway Timeout"), (505, "HTTP Version Not Supported"),
  (506, "Variant Also Negotiates"), (507, "Insufficient Storage"), (508, "Loop Detected"),
  (510, "Not Extended"), (511, "Network Authentication Required")]

def statusText (status : Nat) : String :=
  toString status ++ " " ++ ((phrases.lookup status).getD "<unknown status code>")

def isFailure (status : Nat) : Bool :=
  400 ≤ status && status < 600

def errorFields : List String := ["status", "message", "reason", "code"]

def decodeError : Decoder ErrorResponse := fun w => do
  let fs ← Decoder.record "an error" errorFields w
  return {
    status := ← Decoder.required fs "status" Decoder.text
    message := ← Decoder.defaulted fs "message" Decoder.text ""
    reason := ← Decoder.defaulted fs "reason" Decoder.text ""
    code := ← Decoder.required fs "code" (Decoder.unsigned 16) }

/-- The error that a failure stands for: the one that its body describes, or else one made of its status,
with the body as message. -/
def errorOf (status : Nat) (body : String) : ErrorResponse :=
  match (Json.Written.ofText? body).map decodeError with
  | some (.ok e) => e
  | _ => ⟨statusText status, Text.quoted body, "Failed to parse error data", status⟩

/-- The body of a success, or why there is none. -/
def bodyOf : Reply → Except ClusterError String
  | lost detail => .error (.transport detail)
  | response status body =>
    if isFailure status then .error (.response (errorOf status body)) else .ok body

end Reply

namespace Exchange

def known {α : Type} (r : Except ClusterError α) : Attempt α :=
  ExceptT.mk (.done r)

def read {α : Type} (decode : Decoder α) (body : String) : Except ClusterError α :=
  match Json.Written.ofText? body with
  | none => .error (.undecodable "not a JSON value")
  | some w =>
    match decode w with
    | .ok a => .ok a
    | .error e => .error (.undecodable e.message)

def outcome {α : Type} (decode : Decoder α) (reply : Reply) : Except ClusterError α :=
  match reply.bodyOf with
  | .ok body => read decode body
  | .error e => .error e

/-- Sends a request, unless there is none to send, and reads the reply. -/
def submit {α : Type} (decode : Decoder α) (r : Except ClusterError Request) : Attempt α :=
  match r with
  | .ok r => ExceptT.mk (.ask r fun reply => .done (outcome decode reply))
  | .error e => known (.error e)

end Exchange

end Reconciliation
