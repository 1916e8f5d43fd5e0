import DeclarativeHttp.Binding
import DeclarativeHttp.Codec.Decoder
import DeclarativeHttp.Contract.Default
import DeclarativeHttp.Log
import DeclarativeHttp.Retry.Policy
import DeclarativeHttp.Target

/-!
# Components

The parts that a client is put together from, and capabilities, which wrap them.
-/

namespace DeclarativeHttp

structure Contract where
  parse : Interface → Run (List Metadata)

namespace Contract

def of (d : Dialect) : Contract := ⟨fun i => Run.ofExcept (d.parse i)⟩

def default : Contract := of DefaultDialect.dialect

end Contract

structure Transport where
  execute : Request → Options → Run Response

namespace Transport

/-- Gives the answers that the session holds, and refuses when there is none left. -/
def replies : Transport where
  execute r o := do
    Run.note (.sent r o)
    let s ← get
    match s.replies with
    | [] => Run.fail (.io "connection refused")
    | reply :: rest =>
      set { s with replies := rest }
      Run.ofExcept (reply r)

end Transport

/-- Changes the resolved template of a call before it is sent, and may leave notes. -/
structure Interceptor where
  apply : RequestTemplate → RequestTemplate × List Json

namespace Interceptor

def header (name value : String) : Interceptor := ⟨fun t => (t.header name [value], [])⟩

def applyAll : List Interceptor → RequestTemplate → RequestTemplate × List Json
  | [], t => (t, [])
  | i :: is, t =>
    let (t, notes) := i.apply t
    let (t, more) := applyAll is t
    (t, notes ++ more)

def badName : Error :=
  .configuration "Invalid header name: invalid HTTP header name"

def header? (name value : String) : Except Error Interceptor :=
  let bs := Utf8.ofString value
  if !HeaderMap.isName name then .error badName
  else if !bs.all HeaderMap.isValueByte then
    .error (.configuration "Invalid header value: failed to parse header value")
  else
    match HeaderMap.valueText? bs with
    | none => .error (.configuration "Invalid header value: failed to convert header to a str")
    | some v => .ok (header (Text.lower name) v)

end Interceptor

structure Invoker where
  invoke : String → List Arg → Run Output

abbrev Dispatch := List (String × (List Arg → Run Output))

structure InvokerFactory where
  create : Target → Dispatch → Run Invoker

namespace InvokerFactory

def default : InvokerFactory where
  create target dispatch := pure ⟨fun key args =>
    match dispatch.lookup key with
    | some handler => handler args
    | none => Run.fail (.invalidArgument s!"{target.interface.name} has no method {key}")⟩

end InvokerFactory

/-! ## Capabilities -/

/-- A change to the parts of a client; most leave most parts alone. -/
structure Capability where
  transport : Transport → Transport := id
  retryPolicy : RetryPolicy → RetryPolicy := id
  interceptor : Interceptor → Interceptor := id
  logger : Logger → Logger := id
  logLevel : LogLevel → LogLevel := id
  contract : Contract → Contract := id
  options : Options → Options := id
  encoder : Encoder → Encoder := id
  decoder : Decoder → Decoder := id
  queryMapEncoder : QueryMapEncoder → QueryMapEncoder := id
  invokerFactory : InvokerFactory → InvokerFactory := id

def enrich {α} (part : Capability → α → α) (capabilities : List Capability) (a : α) : α :=
  capabilities.foldl (fun a c => part c a) a

end DeclarativeHttp
