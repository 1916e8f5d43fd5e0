import DeclarativeHttp.Http.Response
import DeclarativeHttp.Json.Basic

/-!
# Sessions

What a client does in the outside world, and what it finds there. A run takes a session
to a result and the session after it. The journal keeps all that was done, so two runs
can be compared by what they did.
-/

namespace DeclarativeHttp

inductive Event where
  | sent (request : Request) (options : Options)
  /-- A body was read from the server. -/
  | read
  | slept (interval : Nat)
  | logged (key line : String)
  /-- A note that a component of the user's own left. -/
  | noted (value : Json)

abbrev Reply := Request → Except Error Response

structure Session where
  now : Instant
  /-- The milliseconds that a request takes. -/
  elapsed : Nat
  /-- The answers to come. -/
  replies : List Reply
  /-- How many sleeps there were. -/
  sleeps : Nat
  /-- Which sleeps are cut short; the first one has the number one. -/
  cutShort : Nat → Bool
  /-- What chance makes of an interval of which a random share is slept. -/
  share : Nat → Nat
  journal : List Event

/-- A bound of the machine was overstepped. -/
inductive Crash where
  | bufferTooLong
  | noSuchArgument (index count : Nat)
  | sleptTooLong
  deriving DecidableEq, Repr

def Crash.message : Crash → String
  | bufferTooLong => "capacity overflow"
  | noSuchArgument index count => s!"index out of bounds: the len is {count} but the index is {index}"
  | sleptTooLong => "overflow when adding durations"

inductive Fault where
  | error (e : Error)
  | crash (c : Crash)

abbrev Quiet := StateM Session

abbrev Run := ExceptT Fault Quiet

def Quiet.noteAll (es : List Event) : Quiet Unit :=
  modify fun s => { s with journal := s.journal ++ es }

namespace Run

def fail {α} (e : Error) : Run α := throw (.error e)

def crash {α} (c : Crash) : Run α := throw (.crash c)

def ofExcept {α} : Except Error α → Run α
  | .ok a => pure a
  | .error e => fail e

def noteAll (es : List Event) : Run Unit := Quiet.noteAll es

def note (e : Event) : Run Unit := noteAll [e]

def remark (v : Json) : Run Unit := note (.noted v)

/-- The result or the error of a run; a crash is not caught. -/
def attempt {α} (x : Run α) : Run (Except Error α) :=
  tryCatch (x >>= fun a => pure (.ok a)) fun
    | .error e => pure (.error e)
    | .crash c => crash c

def mapError {α} (f : Error → Error) (x : Run α) : Run α := do
  match ← attempt x with
  | .ok a => pure a
  | .error e => fail (f e)

def clock : Run Instant := return (← get).now

/-- Sleeps and tells whether it slept to the end. -/
def sleep (interval : Nat) : Run Bool := do
  note (.slept interval)
  let s ← get
  let n := s.sleeps + 1
  set { s with sleeps := n }
  return !s.cutShort n

end Run

def maxBuffer : Nat := 0x7FFFFFFFFFFFFFFF

def Body.read (b : Body) : Run Bytes :=
  match b.failure with
  | some m => Run.fail (.io m)
  | none => pure b.content

/-- Reads a whole body. The length that a server announced is reserved before. -/
def Body.toBytes (b : Body) : Run Bytes :=
  if b.streamed then do
    if maxBuffer < b.announced.getD 0 then Run.crash .bufferTooLong
    else do
      Run.note .read
      b.read
  else b.read

def Body.toText (b : Body) : Run String := return Utf8.toStringLossy (← b.toBytes)

def Response.readText (r : Response) : Run String :=
  match r.body with
  | some b => b.toText
  | none => pure ""

end DeclarativeHttp
