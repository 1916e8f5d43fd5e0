import DeclarativeHttp.Client.Components

/-!
# Calls

What happens when a method is called: bind the arguments, let the interceptors at the
template, and send the request until an attempt succeeds or is not tried again.
-/

namespace DeclarativeHttp

structure Components where
  transport : Transport
  retryPolicy : RetryPolicy
  interceptors : List Interceptor
  logger : Logger
  logLevel : LogLevel
  options : Options
  encoder : Encoder
  decoder : Decoder
  errorDecoder : ErrorDecoder
  queryMapEncoder : QueryMapEncoder
  decode404 : Bool
  closeAfterDecode : Bool
  propagation : Propagation

def maxBuffered : Nat := 8192

namespace Components

/-- The first options among the arguments, else those of the client. -/
def optionsFor (c : Components) (args : List Arg) : Options :=
  (args.findSome? Arg.options?).getD c.options

def intercept (is : List Interceptor) (t : RequestTemplate) : Run RequestTemplate := do
  let (t, notes) := Interceptor.applyAll is t
  Run.noteAll (notes.map .noted)
  return t

/-! ## Responses -/

/-- What a decoder may fail with: decode errors and retryable ones pass, all others are
made decode errors. -/
def asDecodeError (status : Status) (e : Error) : Error :=
  match e with
  | .retryable .. => e
  | e => if e.isDecodeError then e else .decodeFailed status e.message

def decode (c : Components) (m : Metadata) (r : Response) : Run Output :=
  Run.mapError (asDecodeError r.status) (c.decoder.decode r m.returnType)

/-- Reads the body of a small response, so that nothing is left on the line. -/
def bufferSmall (r : Response) : Run Response :=
  match r.body with
  | some b =>
    match b.announced with
    | some n => do
      if n ≤ maxBuffered then return r.setBody (some (Body.buffered (← b.toBytes))) else return r
    | none => pure r
  | none => pure r

def handleResponse (c : Components) (m : Metadata) (r : Response) : Run Output := do
  if m.returnType.isResponse then
    return .response (← if c.closeAfterDecode then bufferSmall r else pure r)
  if r.status.isSuccess then
    if m.returnType.isVoid then return .empty
    return ← c.decode m r
  if c.decode404 && r.status.code == 404 && !m.returnType.isVoid then return ← c.decode m r
  Run.fail (← c.errorDecoder.decode m.configKey r)

/-! ## Attempts -/

def onLevel (c : Components) (x : Quiet Unit) : Run Unit := if c.logLevel.isOn then x else pure ()

def asRetryable (request : Request) (e : Error) : Error :=
  .retryable s!"{e.message} executing {request.text}" request.method none (some e)

theorem asksRetry_asRetryable (request : Request) (e : Error) : (asRetryable request e).asksRetry = true := rfl

/-- What becomes of the answer of the transport: it is logged, with the request that it belongs
to, and a failure of the transport is made retryable. -/
def receive (c : Components) (m : Metadata) (request : Request) :
    Except Error Response → Run Response
  | .error e => do
    if e.isTransport then
      c.onLevel (c.logger.ioError m.configKey c.logLevel e (← get).elapsed)
      Run.fail (asRetryable request e)
    else Run.fail e
  | .ok r => do
    let r := if r.request.isSome then r else r.withRequest request
    if c.logLevel.isOn then c.logger.response m.configKey c.logLevel r (← get).elapsed else return r

def send (c : Components) (m : Metadata) (request : Request) (options : Options) :
    Run Response := do
  c.onLevel (c.logger.request m.configKey c.logLevel request)
  c.receive m request (← Run.attempt (c.transport.execute request options))

def executeAndDecode (c : Components) (target : Target) (m : Metadata) (t : RequestTemplate)
    (options : Options) : Run Output := do
  let request ← Run.ofExcept (target.apply t)
  c.handleResponse m (← c.send m request options)

/-- Attempts until one succeeds or is not tried again. Only retryable errors are offered
to the retryer. -/
def attempts (c : Components) (m : Metadata) (once : Run Output) (r : Retryer) : Run Output := do
  match ← Run.attempt once with
  | .ok output => return output
  | .error e =>
    match e with
    | .retryable .. =>
      match ← r.judge e with
      | .over _ => Run.fail (c.propagation.apply e)
      | .again r' _ => do
        c.onLevel (c.logger.retry m.configKey c.logLevel)
        attempts c m once r'
    | e => Run.fail e
termination_by r.attemptsLeft

def call (c : Components) (target : Target) (m : Metadata) (args : List Arg) : Run Output := do
  let t ← Binding.create c.encoder c.queryMapEncoder m args
  let t ← intercept c.interceptors t
  let r ← c.retryPolicy.fresh
  c.attempts m (c.executeAndDecode target m t (c.optionsFor args)) r

end Components

end DeclarativeHttp
