import DeclarativeHttp.Error
import DeclarativeHttp.Http.Request
import DeclarativeHttp.Json.Printer

/-!
# Arguments of a call
-/

namespace DeclarativeHttp

inductive Arg where
  /-- No value: placeholders are left open. -/
  | absent
  /-- Plain data. -/
  | value (v : Json)
  | bytes (bs : Bytes)
  /-- A URI in place of the base URL. -/
  | uri (u : Url)
  /-- Options for this call. -/
  | options (o : Options)
  deriving Repr

namespace Arg

def ofJson : Json → Arg
  | .null => absent
  | v => value v

/-- A floating number of a format, read and written as binary64; `none` is one without a
value. One that JSON has no text for is `null`. -/
def ofNumber (f : BinaryFormat) (n : Option Json.Number) : Arg :=
  match ((n.bind (·.round .double)).bind (·.round f)).bind (·.round .double) with
  | some x => value (.num (.binary x))
  | none => value .null

def nameText? : Json → Option String
  | .str s => some s
  | .num n => some (String.ofList n.chars)
  | .bool b => some (if b then "true" else "false")
  | .null | .arr _ | .obj _ => none

def ofPairs (pairs : List (Json × Json)) : Except Error Arg :=
  match pairs.mapM fun (n, v) => (nameText? n).map (·, v) with
  | some members => .ok (value (Json.object members))
  | none => .error (.serializationFailed "key must be a string")

def isNull : Arg → Bool
  | absent | value .null => true
  | _ => false

def value? : Arg → Option Json
  | value v => some v
  | _ => none

def options? : Arg → Option Options
  | options o => some o
  | _ => none

def uri? : Arg → Option String
  | uri u => some u.text
  | value (.str s) => some s
  | _ => none

end Arg

end DeclarativeHttp
