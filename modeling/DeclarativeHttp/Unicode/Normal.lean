import DeclarativeHttp.Unicode.Combining
import DeclarativeHttp.Unicode.Composite

/-!
# Normal form

Texts that differ only in how letters and their marks are put together have one normal form:
marks in the order of their classes, and composite characters wherever there are any.
-/

namespace DeclarativeHttp.Unicode

/-! ## Taking apart -/

def decomposeChar : Nat → Char → List Char
  | 0, c => [c]
  | depth + 1, c =>
    match split? c with
    | some (a, b) => decomposeChar depth a ++ [b]
    | none => [c]

/-- No character is composed in more than three steps. -/
def decompose (s : List Char) : List Char := s.flatMap (decomposeChar 4)

/-- Puts a mark in its place among those at the end of a text, which is in reverse. -/
def insertMark (c : Char) : List Char → List Char
  | [] => [c]
  | b :: before =>
    if combiningClass c != 0 && combiningClass c < combiningClass b then
      b :: insertMark c before
    else c :: b :: before

def orderMarks (s : List Char) : List Char :=
  (s.foldl (fun before c => insertMark c before) []).reverse

/-! ## Putting together -/

/-- A text being composed: what is finished, the letter that still takes marks, and the marks
that it did not take. The two lists are in reverse. -/
structure Composing where
  finished : List Char
  letter : Option Char
  marks : List Char

namespace Composing

def text (st : Composing) : List Char :=
  (st.marks ++ st.letter.toList ++ st.finished).reverse

def blocks (st : Composing) (c : Char) : Bool :=
  st.marks.head?.any fun m => combiningClass c ≤ combiningClass m

def push (st : Composing) (c : Char) : Composing :=
  match if st.blocks c then none else st.letter.bind (join? · c) with
  | some joined => { st with letter := some joined }
  | none =>
    if combiningClass c = 0 then
      { finished := st.marks ++ st.letter.toList ++ st.finished, letter := some c, marks := [] }
    else { st with marks := c :: st.marks }

end Composing

def compose (s : List Char) : List Char := (s.foldl Composing.push ⟨[], none, []⟩).text

def normalize (s : List Char) : List Char := compose (orderMarks (decompose s))

end DeclarativeHttp.Unicode
