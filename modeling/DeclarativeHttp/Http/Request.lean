import DeclarativeHttp.Http.Headers
import DeclarativeHttp.Http.Method
import DeclarativeHttp.Text.Utf8
import DeclarativeHttp.Url.Basic

/-!
# Requests
-/

namespace DeclarativeHttp

structure Request where
  method : Method
  url : Url
  headers : Headers
  body : Option Bytes
  deriving DecidableEq, Repr

namespace Request

def text (r : Request) : String := s!"{r.method.name} {r.url.text}"

def bodyText (r : Request) : Option String := r.body.map Utf8.toStringLossy

end Request

/-- What a transport is told for one call; the times are in nanoseconds. -/
structure Options where
  connectTimeout : Nat
  readTimeout : Nat
  followRedirects : Bool
  deriving DecidableEq, Repr

namespace Options

def millisecond : Nat := 1000000

def default : Options := ⟨10000 * millisecond, 60000 * millisecond, true⟩

end Options

end DeclarativeHttp
