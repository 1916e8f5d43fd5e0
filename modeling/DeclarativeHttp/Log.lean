import DeclarativeHttp.Session

/-!
# Logging

The lines that are written about each request and response, more of them with each
level. A logger that shows a body puts it back as it was read.
-/

namespace DeclarativeHttp

inductive LogLevel where
  | none
  | basic
  | headers
  | full
  deriving DecidableEq, Repr

namespace LogLevel

def rank : LogLevel → Nat
  | none => 0
  | basic => 1
  | headers => 2
  | full => 3

def atLeast (l m : LogLevel) : Bool := m.rank ≤ l.rank

def isOn (l : LogLevel) : Bool := l.atLeast basic

end LogLevel

/-- Only a logger of responses may fail, since it may read them. -/
structure Logger where
  request : String → LogLevel → Request → Quiet Unit
  /-- The milliseconds that the request took come last. -/
  response : String → LogLevel → Response → Nat → Run Response
  retry : String → LogLevel → Quiet Unit
  ioError : String → LogLevel → Error → Nat → Quiet Unit

namespace Logger

def requestLines (level : LogLevel) (r : Request) : List String :=
  let first := s!"---> {r.method.name} {r.url.text} HTTP/1.1"
  if !level.atLeast .headers then [first]
  else
    let headers := r.headers.entries.flatMap fun (name, values) =>
      values.map fun v => s!"{name}: {v}"
    let body := if level.atLeast .full then
        match r.bodyText with
        | some b => ["", b]
        | none => []
      else []
    first :: headers ++ body ++ [s!"---> END HTTP ({(r.body.getD []).length}-byte body)"]

def responseLines (level : LogLevel) (r : Response) (elapsed : Nat) : List String :=
  let reason := match r.reason with
    | some p => s!" {p}"
    | none => ""
  let first := s!"<--- HTTP/1.1 {r.status.code}{reason} ({elapsed}ms)"
  if !level.atLeast .headers then [first]
  else
    first :: r.headers.entries.flatMap fun (name, values) =>
      values.map fun v => s!"{name}: " ++ (HeaderMap.valueText? v).getD "<binary>"

def endLine (length : Nat) : String := s!"<--- END HTTP ({length}-byte body)"

def bodyLines (bs : Bytes) : List String :=
  ["", (Utf8.toString? bs).getD "Binary data", endLine bs.length]

def write (form : String → String → List String) (key : String) (lines : List String) : Quiet Unit :=
  Quiet.noteAll ((lines.flatMap (form key)).map fun l => .logged key l)

def standard (form : String → String → List String) : Logger where
  request key level r := write form key (requestLines level r)
  response key level r elapsed := do
    write form key (responseLines level r elapsed)
    if !level.atLeast .headers then return r
    match level.atLeast .full, r.body with
    | true, some b => do
      let bs ← b.toBytes
      write form key (bodyLines bs)
      return r.setBody (some (Body.buffered bs))
    | _, b => do
      write form key [endLine ((b.bind Body.announced).getD 0)]
      return r
  retry key _ := write form key ["---> RETRYING"]
  ioError key _ e elapsed := write form key [s!"<--- ERROR {e.message} ({elapsed}ms)"]

def plain : Logger := standard fun _ line => [line]

/-- Reads and puts back like any other logger, but shows nothing. -/
def silent : Logger := standard fun _ _ => []

def off : Logger where
  request _ _ _ := pure ()
  response _ _ r _ := pure r
  retry _ _ := pure ()
  ioError _ _ _ _ := pure ()

end Logger

end DeclarativeHttp
