import DeclarativeHttp.Proofs.Escaping
import Mathlib.Data.List.Basic

/-!
# Text that is read again

A text may be read as a template by chance. It comes out as it was
if all placeholders in it are written plainly, without a pattern and
without blanks; it is left alone by variables if there are none.
-/

namespace DeclarativeHttp

namespace Text

theorem not_mem_of_splitFirst {sep : Char} {s a b : List Char}
    (h : splitFirst sep s = some (a, b)) : sep ∉ a := by
  induction s generalizing a with
  | nil => cases h
  | cons c r ih =>
    rw [splitFirst] at h
    split at h
    · cases h; exact List.not_mem_nil
    · rename_i hc
      obtain ⟨⟨a', b'⟩, hr, heq⟩ := Option.map_eq_some_iff.mp h
      cases heq
      exact List.not_mem_cons_of_ne_of_not_mem (fun he => hc he.symm) (ih hr)

theorem splitFirst_append {sep : Char} {a : List Char} (ha : sep ∉ a) (b : List Char) :
    splitFirst sep (a ++ sep :: b) = some (a, b) := by
  induction a with
  | nil => rw [List.nil_append, splitFirst, if_pos rfl]
  | cons c a ih =>
    rw [List.mem_cons, not_or] at ha
    rw [List.cons_append, splitFirst, if_neg fun hc => ha.1 hc.symm, ih ha.2]
    rfl

theorem splitFirst_append_left {sep : Char} {a : List Char} (ha : sep ∉ a) (b : List Char) :
    splitFirst sep (a ++ b) = (splitFirst sep b).map fun q => (a ++ q.1, q.2) := by
  induction a with
  | nil => simp
  | cons c a ih =>
    rw [List.mem_cons, not_or] at ha
    rw [List.cons_append, splitFirst, if_neg fun hc => ha.1 hc.symm, ih ha.2]
    cases splitFirst sep b <;> rfl

theorem append_sep_inj {sep : Char} {a a' b b' : List Char} (ha : sep ∉ a) (ha' : sep ∉ a') :
    a ++ sep :: b = a' ++ sep :: b' ↔ a = a' ∧ b = b' := by
  refine ⟨fun h => ?_, fun ⟨h, h'⟩ => by rw [h, h']⟩
  have hsplit := congrArg (splitFirst sep) h
  rw [splitFirst_append ha, splitFirst_append ha', Option.some.injEq, Prod.mk.injEq] at hsplit
  exact hsplit

end Text

namespace Template

/-! ## Placeholders in a text -/

/-- In the text stands a placeholder: its name, and all that stands between its braces. -/
def Holds (s inner : List Char) (name : String) : Prop :=
  '\x7d' ∉ inner ∧ expressionName? inner = some name ∧
    ∃ before after, s = before ++ '\x7b' :: inner ++ '\x7d' :: after

/-- Every placeholder in the text is its name and nothing else. -/
def Steady (s : List Char) : Prop := ∀ inner name, Holds s inner name → inner = name.toList

def Plain (s : List Char) : Prop := ∀ inner name, ¬ Holds s inner name

theorem isNameChar_of_expressionName {inner : List Char} {name : String}
    (h : expressionName? inner = some name) :
    ∀ c ∈ name.toList, isNameChar c = true := by
  unfold expressionName? at h
  generalize Text.trim _ = found at h
  dsimp only at h
  split at h
  · rename_i hname
    cases h
    simpa using (Bool.and_eq_true_iff.mp hname).2
  · cases h

theorem brace_not_mem_name {inner : List Char} {name : String}
    (h : expressionName? inner = some name) {c : Char} (hc : isNameChar c = false) :
    c ∉ name.toList := by
  intro hmem
  rw [isNameChar_of_expressionName h c hmem] at hc
  cases hc

theorem placeholder?_eq_some {s rest : List Char} {name : String}
    (h : placeholder? s = some (name, rest)) :
    ∃ inner, '\x7d' ∉ inner ∧ expressionName? inner = some name ∧ s = inner ++ '\x7d' :: rest := by
  unfold placeholder? at h
  split at h
  · rename_i inner rest' hs
    obtain ⟨name', hname, heq⟩ := Option.map_eq_some_iff.mp h
    cases heq
    exact ⟨inner, Text.not_mem_of_splitFirst hs, hname, Text.splitFirst_eq hs⟩
  · cases h

theorem placeholder?_append {inner : List Char} {name : String} (h : '\x7d' ∉ inner)
    (hname : expressionName? inner = some name) (rest : List Char) :
    placeholder? (inner ++ '\x7d' :: rest) = some (name, rest) := by
  rw [placeholder?, Text.splitFirst_append h]
  simp only [hname, Option.map_some]

theorem Holds.of_append {s inner : List Char} {name : String} (h : Holds s inner name)
    (before : List Char) :
    Holds (before ++ s) inner name := by
  obtain ⟨hinner, hname, l, r, rfl⟩ := h
  exact ⟨hinner, hname, before ++ l, r, by simp only [List.append_assoc]⟩

theorem holds_cons {c : Char} {r inner : List Char} {name : String}
    (h : Holds (c :: r) inner name) :
    c = '\x7b' ∧ (∃ rest, r = inner ++ '\x7d' :: rest) ∨ Holds r inner name := by
  obtain ⟨hinner, hname, before, after, heq⟩ := h
  cases before with
  | nil =>
    rw [List.nil_append, List.cons_append, List.cons.injEq] at heq
    exact .inl ⟨heq.1, after, heq.2⟩
  | cons d before =>
    rw [List.cons_append, List.cons_append, List.cons.injEq] at heq
    exact .inr ⟨hinner, hname, before, after, heq.2⟩

/-- No placeholder stands within the name of another. -/
theorem holds_of_name {text : List Char} {rest inner : List Char} {name : String}
    (htext : '\x7b' ∉ text) (h : Holds (text ++ '\x7d' :: rest) inner name) :
    Holds rest inner name := by
  induction text with
  | nil =>
    obtain ⟨hc, -⟩ | hrest := holds_cons h
    · exact absurd hc (by decide)
    · exact hrest
  | cons d text ih =>
    rw [List.mem_cons, not_or] at htext
    obtain ⟨hc, -⟩ | hrest := holds_cons h
    · exact absurd hc.symm htext.1
    · exact ih htext.2 hrest

theorem holds_text {c : Char} {r inner : List Char} {name : String}
    (hc : c ≠ '\x7b' ∨ placeholder? r = none) (h : Holds (c :: r) inner name) :
    Holds r inner name := by
  obtain ⟨rfl, rest, rfl⟩ | hrest := holds_cons h
  · obtain hc | hnone := hc
    · exact absurd rfl hc
    · rw [placeholder?_append h.1 h.2.1] at hnone
      cases hnone
  · exact hrest

/-! ## Reading and writing -/

theorem placeholders_consLiteral (c : Char) (cs : List Chunk) :
    (Template.mk (consLiteral c cs)).placeholders = (Template.mk cs).placeholders := by
  cases cs with
  | nil => rfl
  | cons d cs => cases d <;> rfl

theorem parseChunks_append_congr {front s s' : List Char} (hfront : '\x7b' ∉ front)
    (h : parseChunks s = parseChunks s') :
    parseChunks (front ++ s) = parseChunks (front ++ s') := by
  induction front with
  | nil => exact h
  | cons c front ih =>
    rw [List.mem_cons, not_or] at hfront
    rw [List.cons_append, List.cons_append, parseChunks_text (Ne.symm hfront.1), parseChunks_text (Ne.symm hfront.1),
      ih hfront.2]

theorem placeholders_cons {c : Char} (hc : c ≠ '\x7b') (s : List Char) :
    (parse (c :: s)).placeholders = (parse s).placeholders := by
  rw [parse, parseChunks_text hc, placeholders_consLiteral]
  rfl

theorem placeholders_brace {s : List Char} (h : placeholder? s = none) :
    (parse ('\x7b' :: s)).placeholders = (parse s).placeholders := by
  rw [parse, parseChunks_brace h, placeholders_consLiteral]
  rfl

theorem placeholders_parse_append {front : List Char} (hfront : '\x7b' ∉ front) (s : List Char) :
    (parse (front ++ s)).placeholders = (parse s).placeholders := by
  induction front with
  | nil => rfl
  | cons c front ih =>
    rw [List.mem_cons, not_or] at hfront
    rw [List.cons_append, placeholders_cons (Ne.symm hfront.1), ih hfront.2]

theorem chars_parseChunks_iff (s : List Char) :
    (parseChunks s).flatMap chunkChars = s ↔ Steady s := by
  induction s using parseChunks.induct with
  | case1 =>
    rw [parseChunks]
    refine ⟨fun _ inner name h => ?_, fun _ => rfl⟩
    obtain ⟨-, -, before, after, heq⟩ := h
    simp at heq
  | case2 r name rest hr ih =>
    obtain ⟨inner, hinner, hname, rfl⟩ := placeholder?_eq_some hr
    have hopen : '\x7b' ∉ name.toList := brace_not_mem_name hname (by decide)
    have hclose : '\x7d' ∉ name.toList := brace_not_mem_name hname (by decide)
    have hchars : (parseChunks ('\x7b' :: (inner ++ '\x7d' :: rest))).flatMap chunkChars =
        '\x7b' :: (name.toList ++ '\x7d' :: (parseChunks rest).flatMap chunkChars) := by
      rw [parseChunks_placeholder hr]
      simp [chunkChars]
    rw [hchars, List.cons.injEq, Text.append_sep_inj hclose hinner]
    constructor
    · rintro ⟨-, rfl, hrest⟩ inner' name' h
      obtain ⟨-, rest', heq⟩ | h' := holds_cons h
      · obtain ⟨rfl, -⟩ := (Text.append_sep_inj hinner h.1).mp heq
        exact congrArg String.toList (Option.some.inj (hname.symm.trans h.2.1))
      · exact ih.mp hrest _ _ (holds_of_name hopen h')
    · intro h
      have hsame : inner = name.toList := h inner name ⟨hinner, hname, [], rest, rfl⟩
      refine ⟨rfl, hsame.symm, ih.mpr fun inner' name' h' => h inner' name' ?_⟩
      simpa using h'.of_append ('\x7b' :: inner ++ ['\x7d'])
  | case3 r hr ih =>
    rw [parseChunks_brace hr, chars_consLiteral, List.cons.injEq, eq_self, true_and, ih]
    exact ⟨fun h inner name hholds => h inner name (holds_text (.inr hr) hholds),
      fun h inner name hholds => h inner name (hholds.of_append ['\x7b'])⟩
  | case4 c r hc ih =>
    rw [parseChunks_text hc, chars_consLiteral, List.cons.injEq, eq_self, true_and, ih]
    exact ⟨fun h inner name hholds => h inner name (holds_text (.inl hc) hholds),
      fun h inner name hholds => h inner name (hholds.of_append [c])⟩

theorem expand_consLiteral (c : Char) (cs : List Chunk) (vars : Variables) (place : Place)
    (format : CollectionFormat) :
    (Template.mk (consLiteral c cs)).expand vars place format =
      c :: (Template.mk cs).expand vars place format := by
  cases cs with
  | nil => rfl
  | cons d cs => cases d <;> rfl

/-- What a text becomes that is read as a template and written again. -/
def reread (text : String) : String := (ofString text).text

theorem reread_eq_iff (text : String) : reread text = text ↔ Steady text.toList := by
  rw [← chars_parseChunks_iff]
  constructor
  · intro h
    have hchars := congrArg String.toList h
    rwa [reread, Template.text, String.toList_ofList] at hchars
  · intro h
    rw [reread, Template.text]
    exact (congrArg String.ofList h).trans String.ofList_toList

theorem map_reread_eq_iff (texts : List String) :
    texts.map reread = texts ↔ ∀ text ∈ texts, Steady text.toList := by
  induction texts with
  | nil => simp
  | cons text texts ih => rw [List.map_cons, List.cons.injEq, reread_eq_iff, ih, List.forall_mem_cons]

theorem placeholders_parseChunks_iff (s : List Char) :
    (Template.mk (parseChunks s)).placeholders = [] ↔ Plain s := by
  induction s using parseChunks.induct with
  | case1 =>
    rw [parseChunks]
    refine ⟨fun _ inner name h => ?_, fun _ => rfl⟩
    obtain ⟨-, -, before, after, heq⟩ := h
    simp at heq
  | case2 r name rest hr ih =>
    obtain ⟨inner, hinner, hname, rfl⟩ := placeholder?_eq_some hr
    rw [parseChunks_placeholder hr]
    exact ⟨fun h => by simp [placeholders] at h, fun h => absurd ⟨hinner, hname, [], rest, rfl⟩ (h inner name)⟩
  | case3 r hr ih =>
    rw [parseChunks_brace hr, placeholders_consLiteral, ih]
    exact ⟨fun h inner name hholds => h inner name (holds_text (.inr hr) hholds),
      fun h inner name hholds => h inner name (hholds.of_append ['\x7b'])⟩
  | case4 c r hc ih =>
    rw [parseChunks_text hc, placeholders_consLiteral, ih]
    exact ⟨fun h inner name hholds => h inner name (holds_text (.inl hc) hholds),
      fun h inner name hholds => h inner name (hholds.of_append [c])⟩

theorem parse_of_plain {s : List Char} (h : Plain s) : parse s = literal s := by
  have hchunks : ∀ s : List Char, (Template.mk (parseChunks s)).placeholders = [] →
      parseChunks s = (literal s).chunks := by
    intro s hs
    induction s using parseChunks.induct with
    | case1 => rw [parseChunks]; rfl
    | case2 r name rest hr ih => simp [parseChunks_placeholder hr, placeholders] at hs
    | case3 r hr ih =>
      rw [parseChunks_brace hr, placeholders_consLiteral] at hs
      rw [parseChunks_brace hr, ih hs]
      cases r <;> rfl
    | case4 c r hc ih =>
      rw [parseChunks_text hc, placeholders_consLiteral] at hs
      rw [parseChunks_text hc, ih hs]
      cases r <;> rfl
  exact congrArg Template.mk (hchunks s ((placeholders_parseChunks_iff s).mpr h))

theorem parse_of_not_mem {s : List Char} (h : '\x7b' ∉ s) : parse s = literal s := by
  apply parse_of_plain
  rintro inner name ⟨-, -, before, after, rfl⟩
  exact h (by simp)

/-! ## Variables -/

/-- Every placeholder costs an opening brace, and none comes in its stead. -/
theorem count_expand (s : List Char) (vars : Variables) (format : CollectionFormat) :
    ((Template.mk (parseChunks s)).expand vars .query format).count '\x7b' +
      (Template.mk (parseChunks s)).placeholders.length ≤ s.count '\x7b' := by
  induction s using parseChunks.induct with
  | case1 => simp [parseChunks, expand, placeholders]
  | case2 r name rest hr ih =>
    obtain ⟨inner, -, -, rfl⟩ := placeholder?_eq_some hr
    have hexpand : ((Template.mk (.expression name :: parseChunks rest)).expand vars .query format).count '\x7b' =
        ((Template.mk (parseChunks rest)).expand vars .query format).count '\x7b' := by
      have hvalue : (expandChunk vars .query format (.expression name)).count '\x7b' = 0 :=
        List.count_eq_zero.mpr (not_mem_expandChunk (by decide) (by decide) vars name)
      simp only [expand, List.flatMap_cons, List.count_append, hvalue, Nat.zero_add]
    have hnames : (Template.mk (.expression name :: parseChunks rest)).placeholders.length =
        (Template.mk (parseChunks rest)).placeholders.length + 1 := by
      simp [placeholders]
    have hbraces : ('\x7b' :: (inner ++ '\x7d' :: rest)).count '\x7b' =
        inner.count '\x7b' + rest.count '\x7b' + 1 := by
      simp
    rw [parseChunks_placeholder hr, hexpand, hnames, hbraces]
    omega
  | case3 r hr ih =>
    rw [parseChunks_brace hr, placeholders_consLiteral, expand_consLiteral, List.count_cons_self,
      List.count_cons_self]
    omega
  | case4 c r hc ih =>
    rw [parseChunks_text hc, placeholders_consLiteral, expand_consLiteral, List.count_cons_of_ne hc,
      List.count_cons_of_ne hc]
    exact ih

theorem expandValues_of_literal {t : Template} (h : t.placeholders = []) (vars : Variables)
    (place : Place) (format : CollectionFormat) : t.expandValues vars place format = [t.chars] := by
  have hexploded : t.exploded? vars format = none := by
    unfold exploded?
    split
    · rename_i name hname
      rw [placeholders, hname] at h
      cases h
    · rfl
  rw [expandValues, hexploded, isUnresolved, h, expand_of_placeholders_nil h]
  rfl

theorem mem_expandValues_iff (s : List Char) (vars : Variables) (format : CollectionFormat) :
    s ∈ (parse s).expandValues vars .query format ↔ Plain s := by
  have hcount := count_expand s vars format
  constructor
  · intro h
    rw [← placeholders_parseChunks_iff, ← List.length_eq_zero_iff]
    unfold expandValues at h
    split at h
    · rename_i values hvalues
      obtain ⟨v, -, rfl⟩ := List.mem_map.mp h
      have hzero : (Place.query.encode v.toList).count '\x7b' = 0 :=
        List.count_eq_zero.mpr (Place.not_mem_encode (by decide) (by decide) v.toList)
      omega
    · split at h
      · cases h
      · have hs : s = (Template.mk (parseChunks s)).expand vars .query format :=
          List.mem_singleton.mp h
        rw [← hs] at hcount
        omega
  · intro h
    have hnames := (placeholders_parseChunks_iff s).mpr h
    have hsame : (Template.mk (parseChunks s)).chars = s :=
      (chars_parseChunks_iff s).mpr fun inner name hholds => absurd hholds (h inner name)
    rw [parse, expandValues_of_literal hnames, hsame]
    exact List.mem_singleton_self s

end Template

end DeclarativeHttp
