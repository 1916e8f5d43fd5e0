import DeclarativeHttp.Json.Basic
import DeclarativeHttp.Text.Utf8

/-!
# Reading JSON text

A reader takes the bytes still to be read and gives a value with the rest, or a
fault. A fault knows how many bytes were left at the place it points to, from which
its line and column follow once the whole text is at hand.
-/

namespace DeclarativeHttp.Json

inductive Cause where
  | eofValue | eofList | eofObject | eofString
  | expectedColon | expectedListEnd | expectedObjectEnd | expectedIdent | expectedValue
  | invalidEscape | invalidNumber | numberOutOfRange | invalidCodePoint | controlCharacter
  | keyNotString | loneSurrogate | trailingComma | trailingCharacters | endOfHexEscape
  | recursionLimit
  | custom (message : String)
  deriving DecidableEq, Repr

def Cause.message : Cause → String
  | eofValue => "EOF while parsing a value"
  | eofList => "EOF while parsing a list"
  | eofObject => "EOF while parsing an object"
  | eofString => "EOF while parsing a string"
  | expectedColon => "expected `:`"
  | expectedListEnd => "expected `,` or `]`"
  | expectedObjectEnd => "expected `,` or `\x7d`"
  | expectedIdent => "expected ident"
  | expectedValue => "expected value"
  | invalidEscape => "invalid escape"
  | invalidNumber => "invalid number"
  | numberOutOfRange => "number out of range"
  | invalidCodePoint => "invalid unicode code point"
  | controlCharacter => "control character (\\u0000-\\u001F) found while parsing a string"
  | keyNotString => "key must be a string"
  | loneSurrogate => "lone leading surrogate in hex escape"
  | trailingComma => "trailing comma"
  | trailingCharacters => "trailing characters"
  | endOfHexEscape => "unexpected end of hex escape"
  | recursionLimit => "recursion limit exceeded"
  | custom message => message

structure Fault where
  cause : Cause
  left : Nat
  deriving DecidableEq, Repr

def position (text : Bytes) (left : Nat) : Nat × Nat :=
  let before := text.take (text.length - left)
  (before.count 0x0A + 1, (before.reverse.takeWhile (· != 0x0A)).length)

def Fault.message (text : Bytes) (f : Fault) : String :=
  let (line, column) := position text f.left
  s!"{f.cause.message} at line {line} column {column}"

abbrev Reader (α : Type) := Bytes → Except Fault (α × Bytes)

def here {α} (cause : Cause) (bs : Bytes) : Except Fault α := .error ⟨cause, bs.length⟩

def ahead {α} (cause : Cause) (bs : Bytes) : Except Fault α := .error ⟨cause, bs.tail.length⟩

def isSpace (b : UInt8) : Bool := b == 0x20 || b == 0x0A || b == 0x09 || b == 0x0D

def skipSpace (bs : Bytes) : Bytes := bs.dropWhile isSpace

def isDigit (b : UInt8) : Bool := 0x30 ≤ b && b ≤ 0x39

def digit (b : UInt8) : Nat := b.toNat - 0x30

def keyword : List UInt8 → Reader Unit
  | [], bs => .ok ((), bs)
  | _ :: _, [] => here .eofValue []
  | e :: es, b :: bs => if b = e then keyword es bs else here .expectedIdent bs

/-! ## Strings -/

def hexNibbles : List UInt8 → Option Nat
  | [] => some 0
  | b :: r =>
    let n := b.toNat
    let v := if 0x30 ≤ n && n ≤ 0x39 then some (n - 0x30)
      else if 0x41 ≤ n && n ≤ 0x46 then some (n - 0x37)
      else if 0x61 ≤ n && n ≤ 0x66 then some (n - 0x57)
      else none
    v.bind fun v => (hexNibbles r).map fun w => v * Nat.pow 16 r.length + w

def hexFour : Reader Nat
  | a :: b :: c :: d :: r =>
    match hexNibbles [a, b, c, d] with
    | some n => .ok (n, r)
    | none => here .invalidEscape r
  | _ => here .eofString []

/-- The character of a `\u` escape, after the `u`. A high surrogate takes a low one
with it; no surrogate stands alone. -/
def unicodeEscape (bs : Bytes) : Except Fault (Char × Bytes) := do
  let (n, r) ← hexFour bs
  if 0xDC00 ≤ n && n ≤ 0xDFFF then here .loneSurrogate r
  else if n < 0xD800 || 0xDBFF < n then .ok (Char.ofNat n, r)
  else
    match r with
    | [] => here .eofString []
    | b :: r =>
      if b != 0x5C then here .endOfHexEscape r
      else
        match r with
        | [] => here .eofString []
        | b :: r =>
          if b != 0x75 then here .endOfHexEscape r
          else do
            let (m, r) ← hexFour r
            if m < 0xDC00 || 0xDFFF < m then here .loneSurrogate r
            else .ok (Char.ofNat ((n - 0xD800) * 0x400 + (m - 0xDC00) + 0x10000), r)

def escape : Bytes → Except Fault (Char × Bytes)
  | [] => here .eofString []
  | b :: r =>
    if b = 0x22 then .ok ('"', r)
    else if b = 0x5C then .ok ('\\', r)
    else if b = 0x2F then .ok ('/', r)
    else if b = 0x62 then .ok (Char.ofNat 0x8, r)
    else if b = 0x66 then .ok (Char.ofNat 0xC, r)
    else if b = 0x6E then .ok ('\n', r)
    else if b = 0x72 then .ok ('\r', r)
    else if b = 0x74 then .ok ('\t', r)
    else if b = 0x75 then unicodeEscape r
    else here .invalidEscape r

def stringBytes : Nat → Bytes → Except Fault (Bytes × Bytes)
  | 0, bs => here .eofString bs
  | _ + 1, [] => here .eofString []
  | fuel + 1, b :: r =>
    if b = 0x22 then .ok ([], r)
    else if b = 0x5C then do
      let (c, r) ← escape r
      let (s, rest) ← stringBytes fuel r
      .ok (Utf8.encode [c] ++ s, rest)
    else if b < 0x20 then here .controlCharacter r
    else do
      let (s, rest) ← stringBytes fuel r
      .ok (b :: s, rest)

/-- A string after its opening quote. The place of an ill-formed byte is counted back from
the end, in bytes of the text that the string stands for. -/
def string (bs : Bytes) : Except Fault (String × Bytes) := do
  let (s, rest) ← stringBytes (bs.length + 1) bs
  match Utf8.toString? s with
  | some s => .ok (s, rest)
  | none => .error ⟨.invalidCodePoint, rest.length + (s.length - Utf8.validLength s)⟩

/-! ## Numbers -/

def maxWord : Nat := UInt64.size - 1

def maxPower : Nat := 308

def scaleDouble (x : Binary) (power : Nat) (down : Bool) : Option Binary :=
  (BinaryFormat.double.round false (Nat.pow 10 power) 1).bind fun p =>
    let (n, d) := x.ratio
    let (pn, pd) := p.ratio
    if down then BinaryFormat.double.round x.negative (n * pd) (d * pn)
    else BinaryFormat.double.round x.negative (n * pn) (d * pd)

def divideByPower : Nat → Binary → Nat → Option Binary
  | 0, x, _ => some x
  | fuel + 1, x, down =>
    if down ≤ maxPower then scaleDouble x down true
    else if x.significand = 0 then some x
    else (scaleDouble x maxPower true).bind fun y => divideByPower fuel y (down - maxPower)

/-- `significand · 10^exponent`, rounded after each of its steps, `none` when it is
too large. -/
def decimalNumber (negative : Bool) (significand : Nat) (exponent : Int) : Option Binary :=
  (BinaryFormat.double.round negative significand 1).bind fun x =>
    if 0 ≤ exponent then
      if exponent.natAbs ≤ maxPower then scaleDouble x exponent.natAbs false
      else if x.significand = 0 then some x
      else none
    else divideByPower 4 x exponent.natAbs

def finishDecimal (negative : Bool) (significand : Nat) (exponent : Int) :
    Reader Number := fun bs =>
  match decimalNumber negative significand exponent with
  | some x => .ok (.binary x, bs)
  | none => here .numberOutOfRange bs

def maxExponent : Nat := 0x7FFFFFFF

def exponentDigits (acc : Nat) : Bytes → Option Nat × Bytes
  | [] => (some acc, [])
  | b :: r =>
    if isDigit b then
      if maxExponent < acc * 10 + digit b then (none, r) else exponentDigits (acc * 10 + digit b) r
    else (some acc, b :: r)

def exponentPart (negative : Bool) (significand : Nat) (start : Int) : Reader Number := fun bs =>
  let (down, bs) :=
    match bs with
    | 0x2B :: r => (false, r)
    | 0x2D :: r => (true, r)
    | r => (false, r)
  match bs with
  | [] => here .eofValue []
  | b :: r =>
    if !isDigit b then here .invalidNumber r
    else
      match exponentDigits (digit b) r with
      | (some e, rest) =>
        finishDecimal negative significand (if down then start - e else start + e) rest
      | (none, rest) =>
        if significand != 0 && !down then here .numberOutOfRange rest
        else .ok (.binary (Binary.zero .double negative), rest.dropWhile isDigit)

def afterDigits (negative : Bool) (significand : Nat) (exponent : Int) : Reader Number
  | 0x65 :: r | 0x45 :: r => exponentPart negative significand exponent r
  | bs => finishDecimal negative significand exponent bs

/-- Digits after the point; those that no longer fit a word are passed over. -/
def fractionDigits (negative : Bool) : Nat → Int → Reader Number
  | significand, exponent, [] => finishDecimal negative significand exponent []
  | significand, exponent, b :: r =>
    if isDigit b then
      if maxWord < significand * 10 + digit b then
        afterDigits negative significand exponent (r.dropWhile isDigit)
      else fractionDigits negative (significand * 10 + digit b) (exponent - 1) r
    else afterDigits negative significand exponent (b :: r)

def fraction (negative : Bool) (significand : Nat) (exponent : Int) : Reader Number
  | [] => ahead .eofValue []
  | b :: r =>
    if !isDigit b then ahead .invalidNumber (b :: r)
    else fractionDigits negative significand exponent (b :: r)

def longInteger (negative : Bool) (significand : Nat) (exponent : Nat) : Reader Number
  | [] => finishDecimal negative significand exponent []
  | b :: r =>
    if isDigit b then longInteger negative significand (exponent + 1) r
    else if b = 0x2E then fraction negative significand exponent r
    else afterDigits negative significand exponent (b :: r)

/-- The integer of a sign and a significand. Minus zero, and what is below the range
of signed words, are not integers. -/
def integer (negative : Bool) (significand : Nat) : Number :=
  if !negative then .natural significand
  else if significand = 0 || 0x8000000000000000 < significand then
    .binary ((BinaryFormat.double.round true significand 1).getD (Binary.zero .double true))
  else .negative significand

def afterInteger (negative : Bool) (significand : Nat) : Reader Number
  | 0x2E :: r => fraction negative significand 0 r
  | 0x65 :: r | 0x45 :: r => exponentPart negative significand 0 r
  | bs => .ok (integer negative significand, bs)

def integerDigits (negative : Bool) (significand : Nat) : Reader Number
  | [] => .ok (integer negative significand, [])
  | b :: r =>
    if isDigit b then
      if maxWord < significand * 10 + digit b then longInteger negative significand 0 (b :: r)
      else integerDigits negative (significand * 10 + digit b) r
    else afterInteger negative significand (b :: r)

def number (negative : Bool) : Reader Number
  | [] => here .eofValue []
  | b :: r =>
    if b = 0x30 then
      match r with
      | c :: _ => if isDigit c then ahead .invalidNumber r else afterInteger negative 0 r
      | [] => afterInteger negative 0 []
    else if isDigit b then integerDigits negative (digit b) r
    else here .invalidNumber r

def signedNumber : Reader Number
  | 0x2D :: r => number true r
  | bs => number false bs

/-! ## Lists and objects -/

inductive Next where
  | close
  | item

def nextItem (first : Bool) (bs : Bytes) : Except Fault (Next × Bytes) :=
  match skipSpace bs with
  | [] => ahead .eofList []
  | b :: r =>
    if b = 0x5D then .ok (.close, b :: r)
    else if first then .ok (.item, b :: r)
    else if b = 0x2C then
      match skipSpace r with
      | [] => ahead .eofValue []
      | c :: r => if c = 0x5D then ahead .trailingComma (c :: r) else .ok (.item, c :: r)
    else ahead .expectedListEnd (b :: r)

def nextMember (first : Bool) (bs : Bytes) : Except Fault (Next × Bytes) :=
  match skipSpace bs with
  | [] => ahead .eofObject []
  | b :: r =>
    if b = 0x7D then .ok (.close, b :: r)
    else if first then if b = 0x22 then .ok (.item, b :: r) else ahead .keyNotString (b :: r)
    else if b = 0x2C then
      match skipSpace r with
      | [] => ahead .eofValue []
      | c :: r =>
        if c = 0x22 then .ok (.item, c :: r)
        else if c = 0x7D then ahead .trailingComma (c :: r)
        else ahead .keyNotString (c :: r)
    else ahead .expectedObjectEnd (b :: r)

def colon (bs : Bytes) : Except Fault (Unit × Bytes) :=
  match skipSpace bs with
  | [] => ahead .eofObject []
  | b :: r => if b = 0x3A then .ok ((), r) else ahead .expectedColon (b :: r)

def closeList (bs : Bytes) : Except Fault (Unit × Bytes) :=
  match skipSpace bs with
  | [] => ahead .eofList []
  | b :: r =>
    if b = 0x5D then .ok ((), r)
    else if b = 0x2C then
      match skipSpace r with
      | c :: r =>
        ahead (if c = 0x5D then .trailingComma else .trailingCharacters) (c :: r)
      | [] => ahead .trailingCharacters []
    else ahead .trailingCharacters (b :: r)

def closeObject (bs : Bytes) : Except Fault (Unit × Bytes) :=
  match skipSpace bs with
  | [] => ahead .eofObject []
  | b :: r =>
    if b = 0x7D then .ok ((), r)
    else if b = 0x2C then ahead .trailingComma (b :: r)
    else ahead .trailingCharacters (b :: r)

def maxDepth : Nat := 127

mutual

/-- A value, `depth` more brackets deep at most. -/
def value : Nat → Nat → Reader Json
  | 0, _, bs => here .eofValue bs
  | fuel + 1, depth, bs =>
    match skipSpace bs with
    | [] => ahead .eofValue []
    | b :: r =>
      if b = 0x6E then do let (_, r) ← keyword "ull".toUTF8.toList r; .ok (.null, r)
      else if b = 0x74 then do let (_, r) ← keyword "rue".toUTF8.toList r; .ok (.bool true, r)
      else if b = 0x66 then do let (_, r) ← keyword "alse".toUTF8.toList r; .ok (.bool false, r)
      else if b = 0x2D || isDigit b then do
        let (n, r) ← signedNumber (b :: r)
        .ok (.num n, r)
      else if b = 0x22 then do let (s, r) ← string r; .ok (.str s, r)
      else if b = 0x5B then
        match depth with
        | 0 => ahead .recursionLimit (b :: r)
        | depth + 1 => do let (xs, r) ← items fuel depth true r; .ok (.arr xs, r)
      else if b = 0x7B then
        match depth with
        | 0 => ahead .recursionLimit (b :: r)
        | depth + 1 => do let (ms, r) ← members fuel depth true r; .ok (object ms, r)
      else ahead .expectedValue (b :: r)

def items : Nat → Nat → Bool → Reader (List Json)
  | 0, _, _, bs => here .eofList bs
  | fuel + 1, depth, first, bs => do
    match ← nextItem first bs with
    | (.close, r) => do let (_, r) ← closeList r; .ok ([], r)
    | (.item, r) =>
      let (x, r) ← value fuel depth r
      let (xs, r) ← items fuel depth false r
      .ok (x :: xs, r)

def members : Nat → Nat → Bool → Reader (List (String × Json))
  | 0, _, _, bs => here .eofObject bs
  | fuel + 1, depth, first, bs => do
    match ← nextMember first bs with
    | (.close, r) => do let (_, r) ← closeObject r; .ok ([], r)
    | (.item, r) =>
      let (n, r) ← string r.tail
      let (_, r) ← colon r
      let (x, r) ← value fuel depth r
      let (ms, r) ← members fuel depth false r
      .ok ((n, x) :: ms, r)

end

/-- A bound on the steps that a text can take: each bracket and each item costs a byte. -/
def steps (bs : Bytes) : Nat := 2 * bs.length + 2

def complete {α} (read : Reader α) (bs : Bytes) : Except Fault α := do
  let (x, r) ← read bs
  match skipSpace r with
  | [] => .ok x
  | b :: r => ahead .trailingCharacters (b :: r)

def parseBytes (bs : Bytes) : Except Fault Json := complete (value (steps bs) maxDepth) bs

def parse (bs : Bytes) : Except String Json := (parseBytes bs).mapError (·.message bs)

end DeclarativeHttp.Json
