import DeclarativeHttp.Codec.Output

/-!
# Decoders

How a response becomes the output of a call, or its error.
-/

namespace DeclarativeHttp

structure Decoder where
  decode : Response → TypeRef → Run Output

structure ResponseMapper where
  map : Response → TypeRef → Run Response

namespace Decoder

def unsupported (r : Response) (type : TypeRef) : Error :=
  .decodeFailed r.status s!"{type.text} is not a type supported by this decoder."

def string : Decoder where
  decode r type := do
    if r.body.isNone then return .empty
    if !type.isString then Run.fail (unsupported r type)
    return .text (← r.readText)

def plain : Decoder where
  decode r type := do
    if r.isEmpty then return .emptyOf type
    if type.isBytes then
      match r.body with
      | some b => return .bytes (← b.toBytes)
      | none => return .empty
    string.decode r type

def isAsciiSpace (b : UInt8) : Bool :=
  b == 0x20 || b == 0x09 || b == 0x0A || b == 0x0C || b == 0x0D

/-- JSON documents; strings and bytes are left as they are, and blank bodies are the
empty value of their type. -/
def json : Decoder where
  decode r type := do
    if r.isEmpty then return .emptyOf type
    match r.body with
    | none => return .emptyOf type
    | some b =>
      let bs ← b.toBytes
      if type.isBytes then return .bytes bs
      if type.isString then return .text (Utf8.toStringLossy bs)
      if bs.all isAsciiSpace then return .emptyOf type
      match Json.parse bs with
      | .ok v => return .json v
      | .error m => Run.fail (.deserializationFailed (Utf8.toStringLossy bs) m r.status)

/-- An optional value is missing where the resource is, and else decoded as what it is
optional of. -/
def optional (other : Decoder) : Decoder where
  decode r type :=
    if !type.isOptional then other.decode r type
    else if r.isEmpty then pure .empty
    else other.decode r (type.args.getLast?.getD .wildcard)

def mapped (mapper : ResponseMapper) (other : Decoder) : Decoder where
  decode r type := do other.decode (← mapper.map r type) type

end Decoder

structure ErrorDecoder where
  decode : String → Response → Run Error

namespace ErrorDecoder

/-- The response as an error; one that says when to come back is retryable. A body that
cannot be read has no text. -/
def plain : ErrorDecoder where
  decode key r := do
    let (method, url) := match r.request with
      | some q => (q.method, q.url.text)
      | none => (Method.get, key)
    let retryAfter := RetryAfter.ofHeaders (← Run.clock) r.headers
    let raw := match ← Run.attempt r.readText with
      | .ok s => s
      | .error _ => ""
    let e := Error.http r.status r.reason method url raw r.headers
    match retryAfter with
    | some t => return .retryable e.message method (some t) (some e)
    | none => return e

end ErrorDecoder

end DeclarativeHttp
