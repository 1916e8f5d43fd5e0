/-!
# Text

Blanks, splitting and caseless comparison of character lists. Text is cut and
compared as a `List Char`; a `String` is only the form in which records keep it.
-/

namespace DeclarativeHttp.Text

/-! ## Blanks -/

def isBlank (c : Char) : Bool :=
  let n := c.toNat
  (0x9 ≤ n && n ≤ 0xD) || n == 0x20 || n == 0x85 || n == 0xA0 || n == 0x1680 ||
    (0x2000 ≤ n && n ≤ 0x200A) || n == 0x2028 || n == 0x2029 || n == 0x202F || n == 0x205F ||
    n == 0x3000

def trimStart (s : List Char) : List Char := s.dropWhile isBlank

def trimEnd (s : List Char) : List Char := (s.reverse.dropWhile isBlank).reverse

def trim (s : List Char) : List Char := trimEnd (trimStart s)

/-! ## Splitting -/

def splitFirst (sep : Char) : List Char → Option (List Char × List Char)
  | [] => none
  | c :: r =>
    if c = sep then some ([], r) else (splitFirst sep r).map fun (a, b) => (c :: a, b)

theorem splitFirst_eq {sep : Char} {s a b : List Char} (h : splitFirst sep s = some (a, b)) :
    s = a ++ sep :: b := by
  induction s generalizing a with
  | nil => simp [splitFirst] at h
  | cons c r ih =>
    rw [splitFirst] at h
    split at h
    · simp_all
    · simp only [Option.map_eq_some_iff, Prod.mk.injEq, Prod.exists] at h
      obtain ⟨a', b', h', rfl, rfl⟩ := h
      simp [ih h']

/-! ## Caseless comparison -/

/-- The text with ASCII capitals made small; all else is kept. -/
def caseKey (s : String) : List Char := s.toList.map Char.toLower

def lower (s : String) : String := String.ofList (caseKey s)

def upper (s : String) : String := String.ofList (s.toList.map Char.toUpper)

end DeclarativeHttp.Text
