import DeclarativeHttp.Client.Call
import DeclarativeHttp.Config

/-!
# Clients

A client is built from its parts and makes instances of interfaces. An instance runs
methods by their keys, or by their names where these are unique.
-/

namespace DeclarativeHttp

structure ClientBuilder where
  transport : Transport
  retryPolicy : RetryPolicy
  interceptors : List Interceptor
  logger : Logger
  logLevel : LogLevel
  contract : Contract
  options : Options
  encoder : Encoder
  decoder : Decoder
  errorDecoder : ErrorDecoder
  queryMapEncoder : QueryMapEncoder
  invokerFactory : InvokerFactory
  decode404 : Bool
  closeAfterDecode : Bool
  propagation : Propagation
  capabilities : List Capability

structure Client where
  components : Components
  contract : Contract
  invokerFactory : InvokerFactory

namespace ClientBuilder

def default : ClientBuilder where
  transport := Transport.replies
  retryPolicy := RetryPolicy.of (.backoff Backoff.default)
  interceptors := []
  logger := Logger.off
  logLevel := .none
  contract := Contract.default
  options := Options.default
  encoder := Encoder.plain
  decoder := Decoder.plain
  errorDecoder := ErrorDecoder.plain
  queryMapEncoder := QueryMapEncoder.members
  invokerFactory := InvokerFactory.default
  decode404 := false
  closeAfterDecode := true
  propagation := .none
  capabilities := []

def ofConfig (c : ClientConfig) : ClientBuilder :=
  { default with
    options := c.options
    retryPolicy := RetryPolicy.of (.backoff c.backoff)
    logLevel := c.logLevel
    propagation := c.propagation
    decode404 := c.decode404
    closeAfterDecode := c.closeAfterDecode }

def interceptor (i : Interceptor) (b : ClientBuilder) : ClientBuilder :=
  { b with interceptors := b.interceptors ++ [i] }

def defaultHeader (name value : String) (b : ClientBuilder) : Except Error ClientBuilder :=
  (Interceptor.header? name value).map b.interceptor

def build (b : ClientBuilder) : Client :=
  let cs := b.capabilities
  { components :=
      { transport := enrich Capability.transport cs b.transport
        retryPolicy := enrich Capability.retryPolicy cs b.retryPolicy
        interceptors := b.interceptors.map (enrich Capability.interceptor cs)
        logger := enrich Capability.logger cs b.logger
        logLevel := enrich Capability.logLevel cs b.logLevel
        options := enrich Capability.options cs b.options
        encoder := enrich Capability.encoder cs b.encoder
        decoder := enrich Capability.decoder cs b.decoder
        errorDecoder := b.errorDecoder
        queryMapEncoder := enrich Capability.queryMapEncoder cs b.queryMapEncoder
        decode404 := b.decode404
        closeAfterDecode := b.closeAfterDecode
        propagation := b.propagation }
    contract := enrich Capability.contract cs b.contract
    invokerFactory := enrich Capability.invokerFactory cs b.invokerFactory }

end ClientBuilder

/-! ## Instances -/

/-- An interface that can be called. `methods` holds the name and the key of each method. -/
structure Instance where
  target : Target
  invoker : Invoker
  methods : List (String × String)

namespace Client

def ignored (key : String) : List Arg → Run Output := fun _ =>
  Run.fail (.configuration s!"Method {key} is ignored and cannot be invoked")

def handler (c : Client) (target : Target) (m : Metadata) : List Arg → Run Output :=
  if m.ignored then ignored m.configKey else c.components.call target m

def dispatch (c : Client) (target : Target) : Dispatch → List Metadata → Except Error Dispatch
  | done, [] => .ok done
  | done, m :: ms =>
    if (done.lookup m.configKey).isSome then
      .error (.configuration s!"Duplicate method identity: {m.configKey}")
    else dispatch c target (done ++ [(m.configKey, c.handler target m)]) ms

/-- Reads the interface of a target and makes an instance of it. -/
def newInstance (c : Client) (target : Target) : Run Instance := do
  let ms ← c.contract.parse target.interface
  let handlers ← Run.ofExcept (c.dispatch target [] ms)
  let invoker ← c.invokerFactory.create target handlers
  return ⟨target, invoker, ms.map fun m => (m.methodName, m.configKey)⟩

end Client

namespace Instance

def invoke (i : Instance) (key : String) (args : List Arg) : Run Output := i.invoker.invoke key args

def keysOf (i : Instance) (method : String) : List String :=
  (i.methods.filter fun m => m.1 == method).map Prod.snd

def call (i : Instance) (method : String) (args : List Arg) : Run Output :=
  match i.keysOf method with
  | [key] => i.invoke key args
  | [] => Run.fail (.invalidArgument s!"{i.target.interface.name} has no method {method}")
  | keys =>
    let all := ", ".intercalate (keys.map Text.quoted)
    Run.fail (.invalidArgument s!"{method} is overloaded; invoke one of [{all}] by config key")

def configKeys (i : Instance) : List String :=
  (i.methods.map Prod.snd).mergeSort fun a b => decide (a ≤ b)

end Instance

end DeclarativeHttp
