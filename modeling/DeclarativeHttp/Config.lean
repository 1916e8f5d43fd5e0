import DeclarativeHttp.Http.Request
import DeclarativeHttp.Json.Typed
import DeclarativeHttp.Log
import DeclarativeHttp.Retry.Policy

/-!
# Configuration

The plain settings of a client, as they are read from JSON. What is missing has its
default.
-/

namespace DeclarativeHttp

/-- Times are in milliseconds. -/
structure ClientConfig where
  connectTimeout : Nat
  readTimeout : Nat
  followRedirects : Bool
  retryPeriod : Nat
  retryMaxPeriod : Nat
  retryMaxAttempts : Nat
  retryJitter : Bool
  logLevel : LogLevel
  decode404 : Bool
  closeAfterDecode : Bool
  propagation : Propagation
  deriving DecidableEq, Repr

namespace ClientConfig

def default : ClientConfig where
  connectTimeout := 10000
  readTimeout := 60000
  followRedirects := true
  retryPeriod := 100
  retryMaxPeriod := 1000
  retryMaxAttempts := 5
  retryJitter := false
  logLevel := .none
  decode404 := false
  closeAfterDecode := true
  propagation := .none

def options (c : ClientConfig) : Options :=
  ⟨c.connectTimeout * Options.millisecond, c.readTimeout * Options.millisecond, c.followRedirects⟩

def backoff (c : ClientConfig) : Backoff :=
  { Backoff.new (c.retryPeriod * Options.millisecond) (c.retryMaxPeriod * Options.millisecond)
      c.retryMaxAttempts with
    jitter := c.retryJitter }

def logLevels : List (String × LogLevel) :=
  [("none", .none), ("basic", .basic), ("headers", .headers), ("full", .full)]

def propagations : List (String × Propagation) := [("none", .none), ("unwrap", .unwrap)]

def fields : List (Json.Field ClientConfig) :=
  [Json.field "connect_timeout_ms" Json.Shape.u64.read fun x c => { c with connectTimeout := x },
    Json.field "read_timeout_ms" Json.Shape.u64.read fun x c => { c with readTimeout := x },
    Json.field "follow_redirects" Json.Shape.bool.read fun x c => { c with followRedirects := x },
    Json.field "retry_period_ms" Json.Shape.u64.read fun x c => { c with retryPeriod := x },
    Json.field "retry_max_period_ms" Json.Shape.u64.read fun x c => { c with retryMaxPeriod := x },
    Json.field "retry_max_attempts" Json.Shape.u32.read fun x c => { c with retryMaxAttempts := x },
    Json.field "retry_jitter" Json.Shape.bool.read fun x c => { c with retryJitter := x },
    Json.field "log_level" (Json.choice logLevels) fun x c => { c with logLevel := x },
    Json.field "decode_404" Json.Shape.bool.read fun x c => { c with decode404 := x },
    Json.field "close_after_decode" Json.Shape.bool.read fun x c =>
      { c with closeAfterDecode := x },
    Json.field "propagation_policy" (Json.choice propagations) fun x c =>
      { c with propagation := x }]

def parse (bs : Bytes) : Except String ClientConfig :=
  (Json.complete (Json.record "struct ClientConfig" fields default) bs).mapError (·.message bs)

end ClientConfig

end DeclarativeHttp
