import DeclarativeHttp.Text.Basic

/-!
# Templates

Text with placeholders `\x7bname\x7d`. A placeholder may carry a pattern behind a
colon, which is passed over. A brace that opens no placeholder is text like any other,
so the braces of a JSON body need no escape.
-/

namespace DeclarativeHttp

inductive Chunk where
  | literal (text : List Char)
  | expression (name : String)
  deriving DecidableEq, Repr

structure Template where
  chunks : List Chunk
  deriving DecidableEq, Repr

namespace Template

def empty : Template := ⟨[]⟩

def isEmpty (t : Template) : Bool := t.chunks.isEmpty

def literal (s : List Char) : Template := if s.isEmpty then empty else ⟨[.literal s]⟩

def placeholders (t : Template) : List String :=
  t.chunks.filterMap fun
    | .expression name => some name
    | .literal _ => none

/-! ## Written form -/

def chunkChars : Chunk → List Char
  | .literal text => text
  | .expression name => '\x7b' :: name.toList ++ ['\x7d']

/-- The template as it is written, without patterns. -/
def chars (t : Template) : List Char := t.chunks.flatMap chunkChars

def text (t : Template) : String := String.ofList t.chars

/-! ## Reading -/

def isNameChar (c : Char) : Bool := c.isAlphanum || c == '_' || c == '-' || c == '.'

def isName (s : List Char) : Bool := !s.isEmpty && s.all isNameChar

def expressionName? (inner : List Char) : Option String :=
  let name := Text.trim (match Text.splitFirst ':' inner with
    | some (before, _) => before
    | none => inner)
  if isName name then some (String.ofList name) else none

def placeholder? (s : List Char) : Option (String × List Char) :=
  match Text.splitFirst '\x7d' s with
  | some (inner, rest) => (expressionName? inner).map (·, rest)
  | none => none

theorem placeholder?_length {s rest : List Char} {name : String}
    (h : placeholder? s = some (name, rest)) : rest.length < s.length := by
  unfold placeholder? at h
  split at h
  · rename_i inner rest' hs
    simp only [Option.map_eq_some_iff, Prod.mk.injEq] at h
    obtain ⟨_, _, _, rfl⟩ := h
    simp only [Text.splitFirst_eq hs, List.length_append, List.length_cons]
    omega
  · simp at h

def consLiteral (c : Char) : List Chunk → List Chunk
  | .literal text :: r => .literal (c :: text) :: r
  | r => .literal [c] :: r

def parseChunks : List Char → List Chunk
  | [] => []
  | c :: r =>
    if c = '\x7b' then
      match _h : placeholder? r with
      | some (name, rest) => .expression name :: parseChunks rest
      | none => consLiteral c (parseChunks r)
    else consLiteral c (parseChunks r)
termination_by s => s.length
decreasing_by
  · have := placeholder?_length _h
    simp only [List.length_cons]
    omega
  · simp
  · simp

def parse (s : List Char) : Template := ⟨parseChunks s⟩

def ofString (s : String) : Template := parse s.toList

end Template

end DeclarativeHttp
