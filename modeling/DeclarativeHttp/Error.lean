import DeclarativeHttp.Http.HeaderMap
import DeclarativeHttp.Http.Method
import DeclarativeHttp.Http.RetryAfter
import DeclarativeHttp.Http.Status
import DeclarativeHttp.Url.Basic

/-!
# Errors

What may go wrong in the life of a client, from reading an interface to reading a
response. A retryable error wraps what made it worth another try.
-/

namespace DeclarativeHttp

inductive Error where
  /-- The interface or the client is set up wrongly. -/
  | configuration (message : String)
  /-- An argument of a call is missing or of the wrong kind. -/
  | invalidArgument (message : String)
  | encodeFailed (message : String) (source : Option String)
  | serializationFailed (message : String)
  | decodeFailed (status : Status) (message : String)
  | deserializationFailed (raw : String) (message : String) (status : Status)
  /-- The server answered with a failure. -/
  | http (status : Status) (reason : Option String) (method : Method) (url : String) (raw : String)
    (headers : HeaderMap)
  | retryable (message : String) (method : Method) (retryAfter : Option Instant)
    (cause : Option Error)
  | io (message : String)
  | timeout
  | invalidUrl (error : Url.Error)
  deriving Repr, Inhabited

namespace Error

def message : Error → String
  | configuration m => s!"Configuration error: {m}"
  | invalidArgument m => s!"Invalid argument: {m}"
  | encodeFailed m _ => s!"Failed to encode request body: {m}"
  | serializationFailed m => s!"Failed to serialize request: {m}"
  | decodeFailed status m => s!"Failed to decode response (status {status.text}): {m}"
  | deserializationFailed _ m status =>
    s!"Failed to deserialize response (status {status.text}): {m}"
  | http status _ method url raw _ =>
    s!"HTTP error {status.text} during [{method.name}] to [{url}]: {raw}"
  | retryable m _ _ _ => m
  | io m => s!"I/O error: {m}"
  | timeout => "Request timed out"
  | invalidUrl e => s!"Invalid URL: {e.message}"

def source? : Error → Option String
  | encodeFailed _ source => source
  | retryable _ _ _ cause => cause.map message
  | io m => some m
  | invalidUrl e => some e.message
  | _ => none

/-! ## Kinds -/

def isTransport : Error → Bool
  | io _ | timeout => true
  | _ => false

def isRetryable : Error → Bool
  | retryable .. | io _ | timeout => true
  | _ => false

/-- Is it an error that a retryer is asked about? -/
def asksRetry : Error → Bool
  | retryable .. => true
  | _ => false

def isEncodeError : Error → Bool
  | encodeFailed .. | serializationFailed _ => true
  | _ => false

def isDecodeError : Error → Bool
  | decodeFailed .. | deserializationFailed .. => true
  | _ => false

/-! ## What an error knows -/

def status? : Error → Option Status
  | http status .. => some status
  | decodeFailed status _ => some status
  | deserializationFailed _ _ status => some status
  | retryable _ _ _ (some cause) => cause.status?
  | _ => none

def raw? : Error → Option String
  | http _ _ _ _ raw _ => some raw
  | deserializationFailed raw _ _ => some raw
  | retryable _ _ _ (some cause) => cause.raw?
  | _ => none

def retryAfter? : Error → Option Instant
  | retryable _ _ retryAfter _ => retryAfter
  | _ => none

@[simp] theorem retryAfter?_retryable (message : String) (method : Method) (retryAfter : Option Instant)
    (cause : Option Error) : (retryable message method retryAfter cause).retryAfter? = retryAfter := rfl

def cause? : Error → Option Error
  | retryable _ _ _ cause => cause
  | _ => none

def unwrapped : Error → Error
  | retryable _ _ _ (some cause) => cause
  | e => e

end Error

end DeclarativeHttp
