import DeclarativeHttp.Interface.TypeRef
import DeclarativeHttp.Json.Typed
import DeclarativeHttp.Session

/-!
# Outputs

What a call gives, before it is read as the type that the caller wants.
-/

namespace DeclarativeHttp

inductive Output where
  | empty
  | text (s : String)
  | bytes (bs : Bytes)
  | json (v : Json)
  | response (r : Response)

namespace Output

def isEmpty : Output → Bool
  | empty => true
  | _ => false

/-- The output in the shape of a type; no output counts as `null`. -/
def read {α} (shape : Json.Shape α) : Output → Run α
  | empty => ofValue .null ""
  | json v => ofValue v v.text
  | text s => ofText (Utf8.ofString s) s .ok
  | bytes bs => ofText bs (Utf8.toStringLossy bs) .ok
  | response r => do
    let s ← r.readText
    ofText (Utf8.ofString s) s r.status
where
  ofValue (v : Json) (raw : String) : Run α :=
    Run.ofExcept ((shape.ofValue v).mapError fun m => .deserializationFailed raw m .ok)
  ofText (bs : Bytes) (raw : String) (status : Status) : Run α :=
    Run.ofExcept ((shape.parse bs).mapError fun m => .deserializationFailed raw m status)

def text? : Output → Option String
  | text s => some s
  | bytes bs => some (Utf8.toStringLossy bs)
  | json v => some v.text
  | empty | response _ => none

def bytes? : Output → Option Bytes
  | text s => some (Utf8.ofString s)
  | bytes bs => some bs
  | json v => some (Utf8.encode v.chars)
  | empty | response _ => none

def response? : Output → Option Response
  | response r => some r
  | _ => none

def emptyOf (type : TypeRef) : Output :=
  if type.isCollection then json (.arr [])
  else if type.isMap then json (.obj [])
  else if type.isBytes then bytes []
  else empty

end Output

end DeclarativeHttp
