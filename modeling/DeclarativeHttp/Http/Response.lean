import DeclarativeHttp.Error
import DeclarativeHttp.Http.Request

/-!
# Responses

A response and its body. A body is what its reader will give: some bytes and, it may
be, a failure after them. The length that the server announced is only told.
-/

namespace DeclarativeHttp

structure Body where
  content : Bytes
  /-- How reading fails once the content was read. -/
  failure : Option String
  announced : Option Nat
  /-- Is the content still to be read from the server? -/
  streamed : Bool
  deriving DecidableEq, Repr

namespace Body

def buffered (content : Bytes) : Body := ⟨content, none, some content.length, false⟩

end Body

structure Response where
  status : Status
  reason : Option String
  headers : HeaderMap
  body : Option Body
  request : Option Request
  deriving Repr

namespace Response

/-- A status that is no status is a failure of the transport. -/
def build (status : Int) (reason : Option String) (headers : HeaderMap) (body : Option Body)
    (request : Option Request) : Except Error Response :=
  match Status.ofCode? status with
  | some s => .ok ⟨s, reason, headers, body, request⟩
  | none =>
    let target := match request with
      | some r => s!" executing {r.text}"
      | none => ""
    .error (.io s!"Invalid status({status}){target}")

def withRequest (request : Request) (r : Response) : Response := { r with request := some request }

def setBody (body : Option Body) (r : Response) : Response := { r with body := body }

def isEmpty (r : Response) : Bool := r.status == .notFound || r.status == .noContent

end Response

end DeclarativeHttp
