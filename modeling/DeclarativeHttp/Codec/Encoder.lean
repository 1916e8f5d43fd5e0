import DeclarativeHttp.Arg
import DeclarativeHttp.Interface.Attribute
import DeclarativeHttp.Interface.TypeRef
import DeclarativeHttp.Session
import DeclarativeHttp.Template.Request
import DeclarativeHttp.Text.Form

/-!
# Encoders

How an argument becomes the body of a request.
-/

namespace DeclarativeHttp

structure Encoder where
  encode : Arg → TypeRef → RequestTemplate → Run RequestTemplate

namespace Encoder

def contentType : String := "Content-Type"

def jsonType : String := "application/json"

def formType : String := "application/x-www-form-urlencoded; charset=UTF-8"

/-- Says what the body is, unless the template says so already. -/
def declareType (type : String) (t : RequestTemplate) : RequestTemplate :=
  if t.headerTexts.contains contentType then t else t.header contentType [type]

def unsupported (type : TypeRef) : Error :=
  .encodeFailed s!"{type.text} is not a type supported by this encoder." none

def plain : Encoder where
  encode arg type t :=
    match arg with
    | .value (.str s) => pure (t.setBody (Utf8.ofString s))
    | .bytes bs => pure (t.setBody bs)
    | _ => Run.fail (unsupported type)

def json : Encoder where
  encode arg type t :=
    let write (bs : Bytes) : Run RequestTemplate := pure ((declareType jsonType t).setBody bs)
    match arg with
    | .bytes bs => write bs
    | .value v => write (Utf8.encode v.chars)
    | .absent => write (Utf8.ofString "null")
    | .uri _ | .options _ => Run.fail (unsupported type)

def formMapType : TypeRef := .named "Map" [.simple "String", .wildcard]

def isFormMap : TypeRef → Bool
  | .named "Map" [.named "String" [], .wildcard] => true
  | _ => false

def formPairs (name : String) : Json → List (String × String)
  | .null => []
  | .arr items => (items.filter (!·.isNull)).map fun v => (name, v.plainText)
  | v => [(name, v.plainText)]

/-- Form parameters as a form; anything else is left to another encoder. -/
def form (other : Encoder) : Encoder where
  encode arg type t :=
    match arg, isFormMap type with
    | .value (.obj members), true =>
      let pairs := members.flatMap fun (name, v) => formPairs name v
      pure ((declareType formType t).setBody (Utf8.encode (Form.encodePairs pairs)))
    | _, _ => other.encode arg type t

end Encoder

structure QueryMapEncoder where
  encode : Json → Run (List (String × Json))

namespace QueryMapEncoder

def members : QueryMapEncoder where
  encode
    | .obj ms => pure (ms.filter fun m => !m.2.isNull)
    | .null => pure []
    | v => Run.fail
      (.encodeFailed s!"QueryMap argument must be a map or a record, got {v.text}" none)

end QueryMapEncoder

end DeclarativeHttp
