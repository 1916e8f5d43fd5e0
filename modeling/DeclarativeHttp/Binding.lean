import DeclarativeHttp.Codec.Encoder
import DeclarativeHttp.Metadata

/-!
# Binding arguments

The request template of one call: the skeleton of its method, filled in from the
arguments and resolved. Maps of queries and headers are merged after that.
-/

namespace DeclarativeHttp

inductive BodyEncoding where
  /-- From the skeleton, if at all. -/
  | plain
  /-- The form parameters are encoded together. -/
  | form
  /-- One argument is encoded. -/
  | object
  deriving DecidableEq, Repr

namespace Metadata

def bodyEncoding (m : Metadata) : BodyEncoding :=
  if !m.formParams.isEmpty && m.template.bodyTemplate?.isNone then .form
  else if m.bodyIndex.isSome then .object
  else .plain

end Metadata

namespace Binding

def argument (args : List Arg) (i : Nat) : Run Arg :=
  match args[i]? with
  | some a => pure a
  | none => Run.crash (.noSuchArgument i args.length)

def expand (expander : Option Expander) (v : Json) : String :=
  match expander with
  | some e => e.expand v
  | none => v.plainText

def argumentVariable? (expander : Option Expander) : Arg → Option Variable
  | .absent | .value .null | .options _ => none
  | .value (.arr items) => some (.many ((items.filter (!·.isNull)).map (expand expander)))
  | .value v => some (.one (expand expander v))
  | .bytes bs => some (.one (Utf8.toStringLossy bs))
  | .uri u => some (.one u.text)

/-- The variables that named parameters make, later ones over earlier ones. -/
def namedVariables (m : Metadata) (args : List Arg) :
    IndexMap (List String) → Variables → Run Variables
  | [], vars => pure vars
  | (i, names) :: r, vars => do
    let a ← argument args i
    let vars := match argumentVariable? (m.expanders.get? i) a with
      | some v => names.foldl (fun vars n => vars.insert n v) vars
      | none => vars
    namedVariables m args r vars

def formMembers (vars : Variables) (names : List String) : List (String × Json) :=
  names.filterMap fun n =>
    match vars n with
    | some (.one s) => some (n, .str s)
    | some (.many ss) => some (n, Json.strs ss)
    | none => none

def asEncodeError (e : Error) : Error :=
  if e.isEncodeError then e else .encodeFailed e.message (some e.message)

def encodeBody (encoder : Encoder) (a : Arg) (type : TypeRef) (t : RequestTemplate) :
    Run RequestTemplate :=
  Run.mapError asEncodeError (encoder.encode a type t)

/-- The texts of a member that is to be merged; `none` for `null`. -/
def memberTexts : Json → Option (List String)
  | .null => none
  | .arr items => some ((items.filter (!·.isNull)).map Json.plainText)
  | v => some [v.plainText]

def queryText (encoded : Bool) (s : String) : String :=
  if encoded then s else String.ofList (Place.query.encode s.toList)

def mergeQuery (encoded : Bool) (t : RequestTemplate) (p : String × Json) : RequestTemplate :=
  match memberTexts p.2 with
  | none | some [] => t
  | some texts => t.query (queryText encoded p.1) (texts.map (queryText encoded))

def mergeQueries (encoded : Bool) (pairs : List (String × Json)) (t : RequestTemplate) :
    RequestTemplate :=
  pairs.foldl (mergeQuery encoded) t

def addQueryMap (encoder : QueryMapEncoder) (m : Metadata) (a : Arg) (t : RequestTemplate) :
    Run RequestTemplate := do
  let pairs ← match a with
    | .value (.obj members) => pure members
    | .value v => encoder.encode v
    | _ =>
      Run.fail (.invalidArgument s!"QueryMap parameter of {m.configKey} must be a map or a record")
  return mergeQueries m.queryMapEncoded pairs t

def mergeHeader (t : RequestTemplate) (p : String × Json) : RequestTemplate :=
  match memberTexts p.2 with
  | none => t
  | some texts => t.header p.1 texts

def mergeHeaders (members : List (String × Json)) (t : RequestTemplate) : RequestTemplate :=
  members.foldl mergeHeader t

def addHeaderMap (a : Arg) (t : RequestTemplate) : Run RequestTemplate :=
  match a with
  | .value (.obj members) => pure (mergeHeaders members t)
  | _ => Run.fail (.invalidArgument "HeaderMap parameter must be a map")

def bindUri (m : Metadata) (args : List Arg) (t : RequestTemplate) : Run RequestTemplate :=
  match m.urlIndex with
  | none => pure t
  | some i => do
    match (← argument args i).uri? with
    | some u => return t.setTarget u.toList
    | none => Run.fail (.invalidArgument s!"URI parameter {i} was null")

def bindBody (encoder : Encoder) (m : Metadata) (args : List Arg) (vars : Variables)
    (t : RequestTemplate) : Run RequestTemplate :=
  match m.bodyEncoding with
  | .plain => pure t
  | .form =>
    encodeBody encoder (.value (Json.object (formMembers vars m.formParams))) Encoder.formMapType t
  | .object =>
    match m.bodyIndex, m.bodyType with
    | some i, some type => do
      let a ← argument args i
      if a.isNull then Run.fail (.invalidArgument s!"Body parameter {i} was null")
      encodeBody encoder a type t
    | _, _ => pure t

def mergeMap (args : List Arg) (index : Option Nat)
    (merge : Arg → RequestTemplate → Run RequestTemplate) (t : RequestTemplate) :
    Run RequestTemplate :=
  match index with
  | none => pure t
  | some i => do
    let a ← argument args i
    if a.isNull then return t else merge a t

/-- The resolved template of a call. -/
def create (encoder : Encoder) (queries : QueryMapEncoder) (m : Metadata) (args : List Arg) :
    Run RequestTemplate := do
  if args.length != m.paramTypes.length then
    Run.fail (.invalidArgument
      s!"{m.configKey} expects {m.paramTypes.length} arguments, got {args.length}")
  let t ← bindUri m args m.template
  let vars ← namedVariables m args m.names Variables.empty
  let t ← bindBody encoder m args vars t
  let t := t.resolve vars
  let t ← mergeMap args m.queryMapIndex (addQueryMap queries m) t
  mergeMap args m.headerMapIndex addHeaderMap t

end Binding

end DeclarativeHttp
