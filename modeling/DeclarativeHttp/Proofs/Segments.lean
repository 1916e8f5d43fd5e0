import DeclarativeHttp.Proofs.Stability
import DeclarativeHttp.Url.Parser

/-!
# Segments of a path

A path falls into segments at its slashes. Values that hold no slash leave the segments of a
template where they are (`splitOn_expand`); only the dot segments of a URL change how many there are
(`length_pushSegments_iff`).
-/

namespace DeclarativeHttp

namespace Text

/-! ## Cutting at a separator -/

/-- The pieces of two texts that stand next to each
other: the last one and the first one are joined. -/
def seam {α : Type} : List (List α) → List (List α) → List (List α)
  | [], qs => qs
  | [p], [] => [p]
  | [p], q :: qs => (p ++ q) :: qs
  | p :: p' :: ps, qs => p :: seam (p' :: ps) qs

variable {sep : Char} {s a b : List Char}

theorem splitOn_append (a b : List Char) :
    (a ++ b).splitOn sep = seam (a.splitOn sep) (b.splitOn sep) := by
  obtain ⟨q, qs, hq⟩ := List.exists_cons_of_ne_nil (List.splitOn_ne_nil sep b)
  induction a with
  | nil =>
    rw [List.nil_append, List.splitOn_nil, hq]
    rfl
  | cons c a ih =>
    obtain ⟨p, ps, hp⟩ := List.exists_cons_of_ne_nil (List.splitOn_ne_nil sep a)
    rw [List.cons_append, List.splitOn_cons_eq_if_modifyHead, List.splitOn_cons_eq_if_modifyHead, ih, hp, hq]
    split
    · rfl
    · cases ps <;> rfl

theorem pieces_induction (sep : Char) {motive : List Char → Prop} (piece : ∀ s, sep ∉ s → motive s)
    (step : ∀ a b, sep ∉ a → motive b → motive (a ++ sep :: b)) (s : List Char) : motive s := by
  induction hn : s.length using Nat.strongRecOn generalizing s with
  | ind n ih =>
    by_cases h : sep ∈ s
    · obtain ⟨a, b, rfl, ha⟩ := List.eq_append_cons_of_mem h
      apply step a b ha
      apply ih b.length _ b rfl
      rw [← hn, List.length_append, List.length_cons]
      omega
    · exact piece s h

theorem seam_map_flatMap {α β : Type} (f : α → List β) (ps qs : List (List α)) :
    (seam ps qs).map (·.flatMap f) = seam (ps.map (·.flatMap f)) (qs.map (·.flatMap f)) := by
  induction ps with
  | nil => rfl
  | cons p ps ih =>
    cases ps with
    | nil =>
      cases qs with
      | nil => rfl
      | cons q qs => simp [seam]
    | cons p' ps =>
      rw [seam, List.map_cons, ih]
      rfl

end Text

/-! ## Segments of a template -/

namespace Template

def chunkPieces : Chunk → List (List Chunk)
  | .literal text => (text.splitOn '/').map fun p => [.literal p]
  | .expression name => [[.expression name]]

def segmentChunks : List Chunk → List (List Chunk)
  | [] => [[]]
  | c :: cs => Text.seam (chunkPieces c) (segmentChunks cs)

def segments (t : Template) : List Template := (segmentChunks t.chunks).map Template.mk

variable {vars : Variables} {format : CollectionFormat}

/-- Values in which slashes are escaped keep to their segments. -/
theorem splitOn_expand (t : Template) :
    (t.expand vars (.path false) format).splitOn '/' =
      t.segments.map fun s => s.expand vars (.path false) format := by
  have hchunk : ∀ c, (expandChunk vars (.path false) format c).splitOn '/' =
      (chunkPieces c).map (·.flatMap (expandChunk vars (.path false) format)) := by
    intro c
    cases c with
    | literal text =>
      rw [chunkPieces, List.map_map]
      exact (List.map_id' _).symm.trans (List.map_congr_left fun p _ => by simp [expandChunk])
    | expression name =>
      have hslash : '/' ∉ expandChunk vars (.path false) format (.expression name) :=
        not_mem_expandChunk (by decide) (by decide) vars name
      rw [List.splitOn_eq_singleton hslash]
      simp [chunkPieces]
  have hchunks : ∀ cs : List Chunk,
    (cs.flatMap (expandChunk vars (.path false) format)).splitOn '/' =
      (segmentChunks cs).map (·.flatMap (expandChunk vars (.path false) format)) := by
    intro cs
    induction cs with
    | nil => rfl
    | cons c cs ih => rw [List.flatMap_cons, Text.splitOn_append, hchunk, ih, segmentChunks,
        Text.seam_map_flatMap]
  rw [segments, List.map_map]
  exact hchunks t.chunks

end Template

/-! ## Dot segments -/

namespace Url

def isDot (s : List Char) : Bool := isDoubleDot s || isSingleDot s

/-- The segments of a path have no dot segment but perhaps
the last, and that one does not take another segment away. -/
structure Unbroken (segments : List (List Char)) : Prop where
  front : ∀ s ∈ segments.dropLast, isDot s = false
  last : ∀ s ∈ segments.getLast?, isDoubleDot s = true → ∀ d ∈ segments.dropLast.getLast?,
    beginsWithDrive d = true

variable {p : Nat} {s : List Char} {stack front segments : List (List Char)}

theorem pushSegments_web (stack : List (List Char)) (s : List Char) (rest : List (List Char)) :
    pushSegments (.web p) stack (s :: rest) = pushSegments (.web p)
      (if isDoubleDot s then if rest.isEmpty then [] :: popSegment stack else popSegment stack
      else if isSingleDot s then if rest.isEmpty then [] :: stack else stack
      else s :: stack) rest := by
  rw [pushSegments.eq_def]
  simp only
  congr 1
  split
  · rfl
  · split
    · rfl
    · split
      · exact if_neg (by simp)
      · rfl

theorem pushSegments_cons (h : isDot s = false) (stack rest : List (List Char)) :
    pushSegments (.web p) stack (s :: rest) = pushSegments (.web p) (s :: stack) rest := by
  rw [isDot, Bool.or_eq_false_iff] at h
  rw [pushSegments_web, h.1, h.2]
  rfl

theorem pushSegments_front (h : ∀ s ∈ front, isDot s = false) (stack rest : List (List Char)) :
    pushSegments (.web p) stack (front ++ rest) =
      pushSegments (.web p) (front.reverse ++ stack) rest := by
  induction front generalizing stack with
  | nil => rfl
  | cons s front ih =>
    rw [List.cons_append, pushSegments_cons (h s (by simp)), ih (fun t ht => h t (by simp [ht])),
      List.reverse_cons, List.append_assoc]
    rfl

theorem pushSegments_of_no_dots (h : ∀ s ∈ segments, isDot s = false) :
    (pushSegments (.web p) [] segments).reverse = segments := by
  have hpush := pushSegments_front (p := p) h [] []
  rw [List.append_nil] at hpush
  rw [hpush, pushSegments, List.append_nil, List.reverse_reverse]

theorem length_popSegment_le (stack : List (List Char)) :
    (popSegment stack).length ≤ stack.length := by
  cases stack with
  | nil => exact Nat.le_refl _
  | cons s stack =>
    rw [popSegment]
    split
    · exact Nat.le_refl _
    · exact Nat.le_succ _

theorem popSegment_eq_iff (stack : List (List Char)) :
    popSegment stack = stack ↔ ∀ d ∈ stack.head?, beginsWithDrive d = true := by
  cases stack with
  | nil => simp [popSegment]
  | cons s stack =>
    rw [popSegment]
    by_cases h : beginsWithDrive s = true <;> simp [h]

theorem popSegment_eq_of_length (h : (popSegment stack).length = stack.length) :
    popSegment stack = stack := by
  cases stack with
  | nil => rfl
  | cons s stack =>
    rw [popSegment] at h ⊢
    split
    · rfl
    · rename_i hdrive
      rw [if_neg hdrive, List.length_cons] at h
      omega

theorem pushSegments_dot (h : isDot s = true) (stack : List (List Char)) {rest : List (List Char)}
    (hrest : rest ≠ []) :
    ∃ stack', stack'.length ≤ stack.length ∧
      pushSegments (.web p) stack (s :: rest) = pushSegments (.web p) stack' rest := by
  have hlast : rest.isEmpty = false := by simpa using hrest
  rw [pushSegments_web, hlast]
  by_cases hdouble : isDoubleDot s = true
  · rw [if_pos hdouble]
    exact ⟨popSegment stack, length_popSegment_le stack, rfl⟩
  · have hsingle : isSingleDot s = true := by
      rw [isDot, Bool.or_eq_true] at h
      exact h.resolve_left hdouble
    rw [if_neg hdouble, if_pos hsingle]
    exact ⟨stack, Nat.le_refl _, rfl⟩

theorem length_pushSegments_le (stack segments : List (List Char)) :
    (pushSegments (.web p) stack segments).length ≤ stack.length + segments.length := by
  induction segments generalizing stack with
  | nil => exact Nat.le_refl _
  | cons s rest ih =>
    have hstep : ∀ stack', stack'.length ≤ stack.length + 1 →
        (pushSegments (.web p) stack' rest).length ≤ stack.length + (s :: rest).length := by
      intro stack' h
      have hrest := ih stack'
      rw [List.length_cons]
      omega
    have hpop := length_popSegment_le stack
    rw [pushSegments_web]
    apply hstep
    split
    · split
      · rw [List.length_cons]; omega
      · omega
    · split
      · split
        · exact Nat.le_refl _
        · exact Nat.le_succ _
      · exact Nat.le_refl _

theorem length_pushSegments_lt (h : ∃ s ∈ segments.dropLast, isDot s = true)
    (stack : List (List Char)) :
    (pushSegments (.web p) stack segments).length < stack.length + segments.length := by
  induction segments generalizing stack with
  | nil =>
    obtain ⟨s, hs, -⟩ := h
    cases hs
  | cons s rest ih =>
    cases rest with
    | nil =>
      obtain ⟨t, ht, -⟩ := h
      cases ht
    | cons t rest =>
      by_cases hs : isDot s = true
      · obtain ⟨stack', hle, hpush⟩ := pushSegments_dot (p := p) hs stack (List.cons_ne_nil t rest)
        have hrest := length_pushSegments_le (p := p) stack' (t :: rest)
        rw [hpush, List.length_cons]
        omega
      · have hlater : ∃ d ∈ (t :: rest).dropLast, isDot d = true := by
          obtain ⟨d, hd, hdot⟩ := h
          rw [List.dropLast_cons_cons, List.mem_cons] at hd
          obtain rfl | hd := hd
          · exact absurd hdot hs
          · exact ⟨d, hd, hdot⟩
        have hrest := ih hlater (s :: stack)
        rw [pushSegments_cons (by simpa using hs)]
        rw [List.length_cons] at hrest ⊢
        omega

theorem unbroken_concat (front : List (List Char)) (s : List Char) : Unbroken (front ++ [s]) ↔
    (∀ d ∈ front, isDot d = false) ∧
      (isDoubleDot s = true → popSegment front.reverse = front.reverse) := by
  rw [popSegment_eq_iff, List.head?_reverse]
  constructor
  · rintro ⟨hfront, hlast⟩
    rw [List.dropLast_concat] at hfront hlast
    exact ⟨hfront, hlast s (by simp)⟩
  · rintro ⟨hfront, hlast⟩
    constructor
    · rwa [List.dropLast_concat]
    · intro t ht
      rw [List.getLast?_concat] at ht
      cases ht
      rwa [List.dropLast_concat]

/-- The last segment of an unbroken path is left empty if it is a dot segment. -/
theorem pushSegments_of_unbroken {front : List (List Char)} {s : List Char}
    (h : Unbroken (front ++ [s])) :
    (pushSegments (.web p) [] (front ++ [s])).reverse = front ++ [if isDot s then [] else s] := by
  obtain ⟨hfront, hlast⟩ := (unbroken_concat front s).mp h
  rw [pushSegments_front hfront, pushSegments_web, pushSegments, List.append_nil, isDot]
  by_cases hdouble : isDoubleDot s = true
  · simp [hdouble, hlast hdouble]
  · by_cases hsingle : isSingleDot s = true <;> simp [hdouble, hsingle]

/-- A path keeps the number of its segments exactly if it is unbroken. -/
theorem length_pushSegments_iff (segments : List (List Char)) :
    (pushSegments (.web p) [] segments).length = segments.length ↔ Unbroken segments := by
  obtain rfl | ⟨front, s, rfl⟩ := segments.eq_nil_or_concat
  · exact ⟨fun _ => ⟨by simp, by simp⟩, fun _ => rfl⟩
  rw [List.concat_eq_append]
  constructor
  · intro hlength
    have hfront : ∀ d ∈ front, isDot d = false := by
      intro d hd
      by_contra hdot
      have hdropped : ∃ d ∈ (front ++ [s]).dropLast, isDot d = true :=
        ⟨d, by rwa [List.dropLast_concat], by simpa using hdot⟩
      have hlt := length_pushSegments_lt (p := p) hdropped []
      rw [hlength, List.length_nil] at hlt
      omega
    refine (unbroken_concat front s).mpr ⟨hfront, fun hdouble => popSegment_eq_of_length ?_⟩
    rw [pushSegments_front hfront, pushSegments_web, pushSegments, if_pos hdouble] at hlength
    simpa using hlength
  · intro h
    have hpush := congrArg List.length (pushSegments_of_unbroken (p := p) h)
    simpa using hpush

/-- A segment that is no dot segment has its own place in an unbroken path. -/
theorem getElem?_pushSegments {j : Nat} (h : Unbroken segments) (hs : segments[j]? = some s)
    (hdot : isDot s = false) :
    (pushSegments (.web p) [] segments).reverse[j]? = some s := by
  obtain rfl | ⟨front, t, rfl⟩ := segments.eq_nil_or_concat
  · cases hs
  rw [List.concat_eq_append] at h hs
  rw [List.concat_eq_append, pushSegments_of_unbroken h]
  by_cases hj : j < front.length
  · rw [List.getElem?_append_left hj] at hs ⊢
    exact hs
  · have hj := Nat.not_lt.mp hj
    rw [List.getElem?_append_right hj] at hs ⊢
    obtain ⟨hzero, rfl⟩ : j - front.length = 0 ∧ t = s := by
      cases hk : j - front.length with
      | zero => rw [hk] at hs; exact ⟨rfl, Option.some.inj hs⟩
      | succ k => rw [hk] at hs; cases hs
    rw [hzero, hdot]
    rfl

end Url

end DeclarativeHttp
