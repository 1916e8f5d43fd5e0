import DeclarativeHttp.Json.Parser
import DeclarativeHttp.Json.Printer
import DeclarativeHttp.Text.Basic
import DeclarativeHttp.Text.Quoted

/-!
# Reading JSON as a given type

A shape reads a type of values, either straight from text, so that a refusal has a
place in it, or from a value that was read before. Both refuse with the same words.
Records are read field by field; their unknown members are passed over unread.
-/

namespace DeclarativeHttp.Json

/-! ## Refusals -/

def Number.described : Number → String
  | .binary x => s!"floating point `{String.ofList (Number.binary x).chars}`"
  | n => s!"integer `{String.ofList n.chars}`"

def described : Json → String
  | .null => "null"
  | .bool b => s!"boolean `{b}`"
  | .num n => n.described
  | .str s => s!"string {Text.quoted s}"
  | .arr _ => "sequence"
  | .obj _ => "map"

def wrongType (v : Json) (expected : String) : String :=
  s!"invalid type: {v.described}, expected {expected}"

/-- Reads what stands where another type was expected and refuses it. Brackets are
refused unopened. -/
def refuse {α} (expected : String) (bs : Bytes) : Except Fault α :=
  match skipSpace bs with
  | [] => ahead .eofValue []
  | b :: r =>
    if b = 0x5B then here (.custom (wrongType (.arr []) expected)) (b :: r)
    else if b = 0x7B then here (.custom (wrongType (.obj []) expected)) (b :: r)
    else do
      let (v, r) ← value 1 0 (b :: r)
      here (.custom (wrongType v expected)) r

structure Shape (α : Type) where
  read : Reader α
  ofValue : Json → Except String α

namespace Shape

def json : Shape Json where
  read := fun bs => value (steps bs) maxDepth bs
  ofValue := .ok

structure Word where
  name : String
  bound : Nat

def Word.ofNumber (w : Word) (n : Number) : Except String Nat :=
  let outside := s!"invalid value: {n.described}, expected {w.name}"
  match n with
  | .natural k => if k < w.bound then .ok k else .error outside
  | .negative _ => .error outside
  | .binary _ => .error (wrongType (.num n) w.name)

def word (w : Word) : Shape Nat where
  read := fun bs =>
    match skipSpace bs with
    | [] => ahead .eofValue []
    | b :: r =>
      if b = 0x2D || isDigit b then do
        let (n, r) ← signedNumber (b :: r)
        match w.ofNumber n with
        | .ok k => .ok (k, r)
        | .error e => here (.custom e) r
      else refuse w.name (b :: r)
  ofValue
    | .num n => w.ofNumber n
    | v => .error (wrongType v w.name)

def u32 : Shape Nat := word ⟨"u32", UInt32.size⟩

def u64 : Shape Nat := word ⟨"u64", UInt64.size⟩

def bool : Shape Bool where
  read := fun bs =>
    match skipSpace bs with
    | [] => ahead .eofValue []
    | b :: r =>
      if b = 0x74 then do let (_, r) ← keyword "rue".toUTF8.toList r; .ok (true, r)
      else if b = 0x66 then do let (_, r) ← keyword "alse".toUTF8.toList r; .ok (false, r)
      else refuse "a boolean" (b :: r)
  ofValue
    | .bool b => .ok b
    | v => .error (wrongType v "a boolean")

def string : Shape String where
  read := fun bs =>
    match skipSpace bs with
    | [] => ahead .eofValue []
    | b :: r => if b = 0x22 then Json.string r else refuse "a string" (b :: r)
  ofValue
    | .str s => .ok s
    | v => .error (wrongType v "a string")

def listItems {α} (read : Reader α) : Nat → Bool → Reader (List α)
  | 0, _, bs => here .eofList bs
  | fuel + 1, first, bs => do
    match ← nextItem first bs with
    | (.close, r) => do let (_, r) ← closeList r; .ok ([], r)
    | (.item, r) =>
      let (x, r) ← read r
      let (xs, r) ← listItems read fuel false r
      .ok (x :: xs, r)

def list {α} (shape : Shape α) : Shape (List α) where
  read := fun bs =>
    match skipSpace bs with
    | [] => ahead .eofValue []
    | b :: r =>
      if b = 0x5B then listItems shape.read (steps r) true r else refuse "a sequence" (b :: r)
  ofValue
    | .arr items => items.mapM shape.ofValue
    | v => .error (wrongType v "a sequence")

def optional {α} (shape : Shape α) : Shape (Option α) where
  read := fun bs =>
    match skipSpace bs with
    | 0x6E :: r => do let (_, r) ← keyword "ull".toUTF8.toList r; .ok (none, r)
    | r => do let (x, r) ← shape.read r; .ok (some x, r)
  ofValue
    | .null => .ok none
    | v => (shape.ofValue v).map some

def parse {α} (shape : Shape α) (bs : Bytes) : Except String α :=
  (complete shape.read bs).mapError (·.message bs)

end Shape

/-! ## Words of a choice -/

def choiceMessage {α} (words : List (String × α)) (s : String) : String :=
  match words with
  | [a] => s!"unknown variant `{s}`, expected `{a.1}`"
  | [a, b] => s!"unknown variant `{s}`, expected `{a.1}` or `{b.1}`"
  | _ =>
    let all := ", ".intercalate (words.map fun w => s!"`{w.1}`")
    s!"unknown variant `{s}`, expected one of {all}"

def choiceWord {α} (words : List (String × α)) : Reader α := fun bs => do
  let (s, r) ← string bs
  match words.lookup s with
  | some a => .ok (a, r)
  | none => here (.custom (choiceMessage words s)) r

def choiceName {α} (words : List (String × α)) : Reader α := fun bs =>
  match skipSpace bs with
  | [] => ahead .eofObject []
  | b :: r =>
    if b = 0x22 then choiceWord words r
    else ahead (if b = 0x7D then .expectedValue else .keyNotString) (b :: r)

/-- One of some words, alone or as the only name of an object with a `null` in it. -/
def choice {α} (words : List (String × α)) : Reader α := fun bs =>
  match skipSpace bs with
  | [] => ahead .eofValue []
  | b :: r =>
    if b = 0x22 then choiceWord words r
    else if b = 0x7B then do
      let (a, r) ← choiceName words r
      let (_, r) ← colon r
      let r := skipSpace r
      let r ← match r with
        | 0x6E :: r => do let (_, r) ← keyword "ull".toUTF8.toList r; .ok r
        | _ => refuse "unit" r
      match skipSpace r with
      | [] => here .eofObject []
      | c :: r => if c = 0x7D then .ok (a, r) else here .expectedValue (c :: r)
    else ahead .expectedValue (b :: r)

/-! ## Passing over -/

/-- A string after its opening quote, whose escapes are only looked at. -/
def skipString : Nat → Reader Unit
  | 0, bs => here .eofString bs
  | _ + 1, [] => here .eofString []
  | fuel + 1, b :: r =>
    if b = 0x22 then .ok ((), r)
    else if b = 0x5C then
      match r with
      | [] => here .eofString []
      | e :: r =>
        if e = 0x75 then do let (_, r) ← hexFour r; skipString fuel r
        else if "\"\\/bfnrt".toUTF8.toList.contains e then skipString fuel r
        else here .invalidEscape r
    else if b < 0x20 then here .controlCharacter (b :: r)
    else skipString fuel r

def skipExponent (bs : Bytes) : Except Fault (Unit × Bytes) :=
  let bs := match bs with
    | 0x2B :: r | 0x2D :: r => r
    | r => r
  match bs with
  | [] => here .invalidNumber []
  | b :: r => if isDigit b then .ok ((), r.dropWhile isDigit) else here .invalidNumber r

def skipNumberEnd : Reader Unit
  | 0x2E :: r =>
    match r with
    | [] => ahead .invalidNumber []
    | b :: r =>
      if !isDigit b then ahead .invalidNumber (b :: r)
      else
        match r.dropWhile isDigit with
        | 0x65 :: r | 0x45 :: r => skipExponent r
        | r => .ok ((), r)
  | 0x65 :: r | 0x45 :: r => skipExponent r
  | r => .ok ((), r)

def skipNumber : Reader Unit
  | [] => here .invalidNumber []
  | b :: r =>
    if b = 0x30 then
      match r with
      | c :: _ => if isDigit c then ahead .invalidNumber r else skipNumberEnd r
      | [] => .ok ((), [])
    else if isDigit b then skipNumberEnd (r.dropWhile isDigit)
    else here .invalidNumber r

inductive Bracket where
  | list
  | object
  deriving DecidableEq

def skipName (b : Bracket) (bs : Bytes) : Except Fault (Unit × Bytes) :=
  match b with
  | .list => .ok ((), bs)
  | .object =>
    match skipSpace bs with
    | [] => ahead .eofObject []
    | c :: r =>
      if c = 0x22 then do
        let (_, r) ← skipString (steps r) r
        colon r
      else ahead .keyNotString (c :: r)

mutual

def skipValue : Nat → List Bracket → Reader Unit
  | 0, _, bs => here .eofValue bs
  | fuel + 1, brackets, bs =>
    match skipSpace bs with
    | [] => ahead .eofValue []
    | b :: r =>
      if b = 0x6E then do
        let (_, r) ← keyword "ull".toUTF8.toList r
        skipRest fuel true brackets r
      else if b = 0x74 then do
        let (_, r) ← keyword "rue".toUTF8.toList r
        skipRest fuel true brackets r
      else if b = 0x66 then do
        let (_, r) ← keyword "alse".toUTF8.toList r
        skipRest fuel true brackets r
      else if b = 0x2D then do let (_, r) ← skipNumber r; skipRest fuel true brackets r
      else if isDigit b then do let (_, r) ← skipNumber (b :: r); skipRest fuel true brackets r
      else if b = 0x22 then do let (_, r) ← skipString (steps r) r; skipRest fuel true brackets r
      else if b = 0x5B then skipRest fuel false (.list :: brackets) r
      else if b = 0x7B then skipRest fuel false (.object :: brackets) r
      else ahead .expectedValue (b :: r)

/-- What follows a value, or an opening bracket: a comma may come only after a value. -/
def skipRest : Nat → Bool → List Bracket → Reader Unit
  | 0, _, _, bs => here .eofValue bs
  | _ + 1, _, [], bs => .ok ((), bs)
  | fuel + 1, afterValue, b :: brackets, bs =>
    match skipSpace bs with
    | [] => ahead (if b = .list then .eofList else .eofObject) []
    | c :: r =>
      if afterValue && c = 0x2C then do
        let (_, r) ← skipName b r
        skipValue fuel (b :: brackets) r
      else if (c = 0x5D && b = .list) || (c = 0x7D && b = .object) then
        skipRest fuel true brackets r
      else if afterValue then
        ahead (if b = .list then .expectedListEnd else .expectedObjectEnd) (c :: r)
      else do
        let (_, r) ← skipName b (c :: r)
        skipValue fuel (b :: brackets) r

end

/-! ## Records -/

abbrev Field (α : Type) := String × Reader (α → α)

def field {α β} (name : String) (read : Reader β) (set : β → α → α) : Field α :=
  (name, fun bs => do let (x, r) ← read bs; .ok (set x, r))

/-- Members in any order; a field may come once. -/
def recordMembers {α} (fields : List (Field α)) : Nat → List String → Bool → α → Reader α
  | 0, _, _, _, bs => here .eofObject bs
  | fuel + 1, seen, first, acc, bs => do
    match ← nextMember first bs with
    | (.close, r) => do let (_, r) ← closeObject r; .ok (acc, r)
    | (.item, r) =>
      let (name, r) ← string r.tail
      match fields.lookup name with
      | some read =>
        if seen.contains name then
          let r := match skipSpace r with
            | 0x7D :: r => r
            | r => r
          here (.custom s!"duplicate field `{name}`") r
        else
          let (_, r) ← colon r
          let (set, r) ← read r
          recordMembers fields fuel (name :: seen) false (set acc) r
      | none =>
        let (_, r) ← colon r
        let (_, r) ← skipValue (steps r) [] r
        recordMembers fields fuel seen false acc r

def recordItems {α} : List (Field α) → Bool → α → Reader α
  | [], _, acc, bs => do let (_, r) ← closeList bs; .ok (acc, r)
  | (_, read) :: fields, first, acc, bs => do
    match ← nextItem first bs with
    | (.close, r) => do let (_, r) ← closeList r; .ok (acc, r)
    | (.item, r) =>
      let (set, r) ← read r
      recordItems fields false (set acc) r

def record {α} (expected : String) (fields : List (Field α)) (default : α) : Reader α := fun bs =>
  match skipSpace bs with
  | [] => ahead .eofValue []
  | b :: r =>
    if b = 0x5B then recordItems fields true default r
    else if b = 0x7B then recordMembers fields (steps r) [] true default r
    else refuse expected (b :: r)

end DeclarativeHttp.Json
