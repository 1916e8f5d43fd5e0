/-!
# Request methods
-/

namespace DeclarativeHttp

/-- A method is its name; the names are case-sensitive. -/
structure Method where
  name : String
  deriving DecidableEq, Repr

namespace Method

def get : Method := ⟨"GET"⟩

def verbs : List Method :=
  ["GET", "POST", "PUT", "DELETE", "PATCH", "HEAD", "OPTIONS", "TRACE", "CONNECT"].map Method.mk

end Method

end DeclarativeHttp
