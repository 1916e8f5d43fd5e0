import DeclarativeHttp.Url.Host

/-!
# Reading URLs

An absolute URL is read from left to right: scheme, authority, path, query and
fragment. In the schemes of the web a backslash counts as a slash, dot segments are
taken out of the path, and ports that go without saying are left out.
-/

namespace DeclarativeHttp.Url

/-! ## Which characters are escaped where -/

def oneOf (s : String) : Percent.EscapeSet := fun c => s.toList.contains c

def fragmentSet : Percent.EscapeSet := fun c => Percent.controls c || oneOf " \"<>`" c

def pathSet : Percent.EscapeSet := fun c => fragmentSet c || oneOf "#?\x7b\x7d" c

def userinfoSet : Percent.EscapeSet := fun c => pathSet c || oneOf "/:;=@[\\]^|" c

def querySet : Percent.EscapeSet := fun c => Percent.controls c || oneOf " \"#<>" c

def webQuerySet : Percent.EscapeSet := fun c => querySet c || c == '\''

/-! ## Schemes -/

def webPorts : List (String × Option Nat) :=
  [("http", some 80), ("https", some 443), ("ws", some 80), ("wss", some 443), ("ftp", some 21),
    ("file", none)]

inductive Kind where
  | web (port : Nat)
  | file
  | other
  deriving DecidableEq

def kindOf (scheme : List Char) : Kind :=
  match webPorts.lookup (String.ofList scheme) with
  | some (some port) => .web port
  | some none => .file
  | none => .other

def Kind.isSpecial : Kind → Bool
  | .other => false
  | _ => true

def isSchemeChar (c : Char) : Bool := c.isAlphanum || c == '+' || c == '-' || c == '.'

def scheme? (s : List Char) : Option (List Char × List Char) :=
  match s with
  | [] => none
  | c :: _ =>
    if !c.isAlpha then none
    else
      match s.dropWhile isSchemeChar with
      | ':' :: r => some ((s.takeWhile isSchemeChar).map Char.toLower, r)
      | _ => none

/-! ## Authority -/

def Kind.endsAuthority (k : Kind) (c : Char) : Bool :=
  c == '/' || c == '?' || c == '#' || (c == '\\' && k.isSpecial)

def splitUserinfo (k : Kind) (s : List Char) : Option (List Char) × List Char :=
  let authority := s.takeWhile (fun c => !k.endsAuthority c)
  match Text.splitFirst '@' authority.reverse with
  | none => (none, s)
  | some (_, before) => (some before.reverse, s.drop (before.length + 1))

def hostText (k : Kind) : Bool → List Char → List Char × List Char
  | _, [] => ([], [])
  | inside, c :: r =>
    if k.endsAuthority c || (c == ':' && !inside) then ([], c :: r)
    else
      let inside := if c = '[' then true else if c = ']' then false else inside
      let (h, rest) := hostText k inside r
      (c :: h, rest)

def portDigits (k : Kind) : Option Nat → List Char → Except Error (Option Nat × List Char)
  | port, [] => .ok (port, [])
  | port, c :: r =>
    if c.isDigit then
      let p := port.getD 0 * 10 + (c.toNat - 0x30)
      if 65535 < p then .error .invalidPort else portDigits k (some p) r
    else if c = '/' || c = '\\' || c = '?' || c = '#' then .ok (port, c :: r)
    else .error .invalidPort

def port? (k : Kind) (s : List Char) : Except Error (Option Nat × List Char) :=
  (portDigits k none s).map fun (port, r) =>
    match k, port with
    | .web default, some p => (if p = default then none else some p, r)
    | _, port => (port, r)

def portOf (k : Kind) : List Char → Except Error (Option Nat × List Char)
  | ':' :: r => port? k r
  | r => .ok (none, r)

def credentials : Option (List Char) → List Char × Option (List Char)
  | none => ([], none)
  | some u =>
    match Text.splitFirst ':' u with
    | none => (Percent.encode userinfoSet u, none)
    | some (name, pw) =>
      (Percent.encode userinfoSet name, if pw.isEmpty then none else some (Percent.encode userinfoSet pw))

def hostOf (k : Kind) (text : List Char) : Except Error Host :=
  if k.isSpecial then if text.isEmpty then .error .emptyHost else Host.parse text
  else Host.parseOpaque text

def authority? (k : Kind) (s : List Char) : Except Error (Authority × List Char) :=
  let (userinfo, r) := splitUserinfo k s
  if userinfo == some [] && (r.head?.map k.endsAuthority).getD false then .error .emptyHost
  else do
    let (user, password) := credentials userinfo
    let (text, r) := hostText k false r
    let host ← hostOf k text
    if host == .domain [] && (r.head? == some ':') then .error .emptyHost
    else do
      let (port, r) ← portOf k r
      if host == .domain [] && (!user.isEmpty || password.isSome) then .error .emptyHost
      else .ok (⟨user, password, host, port⟩, r)

/-! ## Path, query and fragment -/

def endsPath (c : Char) : Bool := c == '?' || c == '#'

def isSingleDot (s : List Char) : Bool :=
  s == ['.'] || s.map Char.toLower == ['%', '2', 'e']

def isDoubleDot (s : List Char) : Bool :=
  let s := s.map Char.toLower
  s == ['.', '.'] || s == ['.', '%', '2', 'e'] || s == ['%', '2', 'e', '.'] ||
    s == ['%', '2', 'e', '%', '2', 'e']

def isDrive (s : List Char) : Bool :=
  match s with
  | [c, d] => c.isAlpha && (d == ':' || d == '|')
  | _ => false

def beginsWithDrive (s : List Char) : Bool :=
  isDrive (s.take 2) && (s.drop 2).head?.all (· == '\\')

/-- Goes up one segment, but never out of a drive. -/
def popSegment : List (List Char) → List (List Char)
  | [] => []
  | s :: stack => if beginsWithDrive s then s :: stack else stack

/-- The segments of a path, the last one first, with dot segments taken out. -/
def pushSegments (k : Kind) : List (List Char) → List (List Char) → List (List Char)
  | stack, [] => stack
  | stack, s :: rest =>
    let last := rest.isEmpty
    let stack :=
      if isDoubleDot s then
        let stack := popSegment stack
        if last then [] :: stack else stack
      else if isSingleDot s then if last then [] :: stack else stack
      else
        match s with
        | [c, '|'] =>
          if k = .file && stack.isEmpty && c.isAlpha then [c, ':'] :: stack else s :: stack
        | _ => s :: stack
    pushSegments k stack rest

def pathSegments (k : Kind) (text : List Char) : List (List Char) :=
  let text := if k.isSpecial then text.map fun c => if c = '\\' then '/' else c else text
  let parts := (text.splitOn '/').map (Percent.encode pathSet)
  (pushSegments k [] parts).reverse

def hierarchicalPath (k : Kind) (text : List Char) : Path :=
  match text with
  | [] => .segments (if k.isSpecial then [[]] else [])
  | c :: r =>
    if c = '/' || (c = '\\' && k.isSpecial) then .segments (pathSegments k r)
    else .segments (pathSegments k text)

def queryAndFragment (k : Kind) (s : List Char) : Option (List Char) × Option (List Char) :=
  let fragment (s : List Char) := match s with
    | '#' :: f => some (Percent.encode fragmentSet f)
    | _ => none
  match s with
  | '?' :: r =>
    let query := r.takeWhile (· != '#')
    (some (Percent.encode (if k.isSpecial then webQuerySet else querySet) query),
      fragment (r.dropWhile (· != '#')))
  | r => (none, fragment r)

def finish (k : Kind) (scheme : List Char) (authority : Option Authority) (s : List Char)
    (path : List Char → Path) : Url :=
  let (query, fragment) := queryAndFragment k (s.dropWhile (fun c => !endsPath c))
  ⟨scheme, authority, path (s.takeWhile (fun c => !endsPath c)), query, fragment⟩

/-! ## File URLs -/

/-- What follows the host of a file URL, if it has one. A path that begins with a drive
takes the host away; empty segments in front of a path are left out. -/
def finishFile (scheme : List Char) (host : Host) (s : List Char) : Url :=
  let segments := pathSegments .file (s.takeWhile fun c => !endsPath c)
  let host := if (segments.head?.map isDrive).getD false then .domain [] else host
  let segments := match segments.dropWhile List.isEmpty with
    | [] => [[]]
    | parts => parts
  finish .file scheme (some ⟨[], none, host, none⟩) s fun _ => .segments segments

def isSlash (c : Char) : Bool := c == '/' || c == '\\'

def dropSlash (s : List Char) : List Char := if s.head?.any isSlash then s.tail else s

/-- A file URL after two slashes. Where no host is named, or the machine itself is, the path
is read together with its first slash. -/
def hostedFileUrl (scheme s : List Char) : Except Error Url :=
  let name := s.takeWhile fun c => !isSlash c && !endsPath c
  let rest := s.drop name.length
  if isDrive name then .ok (finishFile scheme (.domain []) s)
  else if name.isEmpty then .ok (finishFile scheme (.domain []) rest)
  else do
    let host ← Host.parse name
    if host == .domain "localhost".toList then return finishFile scheme (.domain []) rest
    return finishFile scheme host (dropSlash rest)

def fileUrl (scheme s : List Char) : Except Error Url :=
  if 2 ≤ s.length && (s.take 2).all isSlash then hostedFileUrl scheme (s.drop 2)
  else .ok (finishFile scheme (.domain []) (dropSlash s))

/-! ## URLs -/

/-- Blanks and controls at the ends, tabs and line breaks everywhere are no part of a URL. -/
def clean (s : List Char) : List Char :=
  let edge (c : Char) := c.toNat ≤ 0x20
  ((s.dropWhile edge).reverse.dropWhile edge).reverse.filter
    fun c => c != '\t' && c != '\n' && c != '\r'

def parseChars (s : List Char) : Except Error Url :=
  match scheme? (clean s) with
  | none => .error .relativeWithoutBase
  | some (scheme, r) =>
    match kindOf scheme with
    | .file => fileUrl scheme r
    | .web p => do
      let k := Kind.web p
      let (a, r) ← authority? k (r.dropWhile isSlash)
      return finish k scheme (some a) r (hierarchicalPath k)
    | .other =>
      match r with
      | '/' :: '/' :: r => do
        let (a, r) ← authority? .other r
        return finish .other scheme (some a) r (hierarchicalPath .other)
      | '/' :: _ => .ok (finish .other scheme none r (hierarchicalPath .other))
      | _ =>
        .ok (finish .other scheme none r fun text =>
          .undivided (Percent.encode Percent.controls text))

def parse (s : String) : Except Error Url := parseChars s.toList

end DeclarativeHttp.Url
