import DeclarativeHttp.Proofs.Rereading
import Mathlib.Data.List.Chain
import Mathlib.Data.List.TakeWhile

/-!
# Parsing templates loses nothing

A template that is written and parsed again, with more text behind it or
without, is the one that is parsed from the text as it was first given. Writing
drops patterns and blanks, so text that an earlier brace was tried on gets
shorter; no such brace opens a placeholder afterwards that opened none before.
-/

namespace DeclarativeHttp

namespace Text

theorem takeWhile_ne_of_not_mem {sep : Char} {s : List Char} (h : sep ∉ s) :
    s.takeWhile (· != sep) = s := by
  apply List.takeWhile_eq_self_iff.mpr
  intro c hc
  have hne : c ≠ sep := fun he => h (he ▸ hc)
  simpa using hne

theorem takeWhile_ne_append {sep : Char} {a : List Char} (ha : sep ∉ a) (b : List Char) :
    (a ++ sep :: b).takeWhile (· != sep) = a := by
  rw [takeWhile_append_of_head (by simp), takeWhile_ne_of_not_mem ha]

theorem not_mem_of_splitFirst_none {sep : Char} {s : List Char} (h : splitFirst sep s = none) :
    sep ∉ s := by
  intro hmem
  obtain ⟨a, b, rfl, ha⟩ := List.eq_append_cons_of_mem hmem
  rw [splitFirst_append ha] at h
  cases h

theorem mem_dropWhile {p : Char → Bool} {s : List Char} {c : Char} (hc : c ∈ s) (hp : p c = false) :
    c ∈ s.dropWhile p := by
  rw [← List.takeWhile_append_dropWhile (p := p) (l := s), List.mem_append] at hc
  apply hc.resolve_left
  intro htaken
  have hkept := List.mem_takeWhile_imp htaken
  rw [hp] at hkept
  cases hkept

theorem mem_trim {s : List Char} {c : Char} (hc : c ∈ s) (hblank : isBlank c = false) :
    c ∈ trim s := by
  have hstart : c ∈ trimStart s := mem_dropWhile hc hblank
  have hend : c ∈ (trimStart s).reverse.dropWhile isBlank :=
    mem_dropWhile (List.mem_reverse.mpr hstart) hblank
  exact List.mem_reverse.mpr hend

theorem dropWhile_of_forall {p : Char → Bool} {s : List Char} (h : ∀ c ∈ s, p c = false) :
    s.dropWhile p = s := by
  cases s with
  | nil => rfl
  | cons c r => rw [List.dropWhile_cons_of_neg (by simp [h c (by simp)])]

theorem trim_of_forall {s : List Char} (h : ∀ c ∈ s, isBlank c = false) : trim s = s := by
  have hrev : ∀ c ∈ s.reverse, isBlank c = false := fun c hc => h c (List.mem_reverse.mp hc)
  rw [trim, trimStart, dropWhile_of_forall h, trimEnd, dropWhile_of_forall hrev, List.reverse_reverse]

end Text

namespace Template

/-! ## Names -/

theorem expressionName?_eq (inner : List Char) :
    expressionName? inner =
      if isName (Text.trim (inner.takeWhile (· != ':'))) then
        some (String.ofList (Text.trim (inner.takeWhile (· != ':'))))
      else none := by
  unfold expressionName?
  cases hs : Text.splitFirst ':' inner with
  | none => rw [Text.takeWhile_ne_of_not_mem (Text.not_mem_of_splitFirst_none hs)]
  | some q =>
    have hbefore : inner.takeWhile (· != ':') = q.1 := by
      rw [Text.splitFirst_eq hs, Text.takeWhile_ne_append (Text.not_mem_of_splitFirst hs)]
    rw [hbefore]

theorem isNameChar_of_isName {name : List Char} (hname : isName name = true) :
    ∀ c ∈ name, isNameChar c = true := by
  intro c hc
  have hall := (Bool.and_eq_true_iff.mp hname).2
  exact List.all_eq_true.mp hall c hc

theorem not_mem_of_isName {name : List Char} (hname : isName name = true) {c : Char}
    (hc : isNameChar c = false) :
    c ∉ name := by
  intro hmem
  rw [isNameChar_of_isName hname c hmem] at hc
  cases hc

/-- A character that no name has is not trimmed away, unless it is a blank. -/
theorem expressionName?_eq_none {inner : List Char} {c : Char} (hc : c ∈ inner.takeWhile (· != ':'))
    (hblank : Text.isBlank c = false) (hname : isNameChar c = false) :
    expressionName? inner = none := by
  rw [expressionName?_eq, if_neg]
  intro h
  exact not_mem_of_isName h hname (Text.mem_trim hc hblank)

theorem isBlank_of_isNameChar {c : Char} (h : isNameChar c = true) : Text.isBlank c = false := by
  have hval : c.toNat = c.val.toNat := rfl
  have halnum : c.isAlphanum = (decide (c.val ≥ 'A'.val ∧ c.val ≤ 'Z'.val) ||
      (c.val ≥ 'a'.val && c.val ≤ 'z'.val) || (c.val ≥ '0'.val && c.val ≤ '9'.val)) := rfl
  simp only [isNameChar, halnum, Bool.or_eq_true, Bool.and_eq_true, decide_eq_true_eq, UInt32.le_iff_toNat_le, beq_iff_eq,
    Char.ext_iff, ← UInt32.toNat_inj] at h
  simp only [Text.isBlank, hval, Bool.or_eq_false_iff, Bool.and_eq_false_iff, decide_eq_false_iff_not,
    beq_eq_false_iff_ne]
  simp at h
  omega

theorem expressionName?_name {inner : List Char} {name : String}
    (h : expressionName? inner = some name) :
    expressionName? name.toList = some name := by
  have hchars := isNameChar_of_expressionName h
  have hcolon := Text.takeWhile_ne_of_not_mem (brace_not_mem_name h (c := ':') (by decide))
  have hname : isName name.toList = true := by
    rw [expressionName?_eq] at h
    split at h
    · rename_i hname
      cases h
      rwa [String.toList_ofList]
    · cases h
  have htrim := Text.trim_of_forall fun c hc => isBlank_of_isNameChar (hchars c hc)
  rw [expressionName?_eq, hcolon, htrim, if_pos hname, String.ofList_toList]

/-- What a brace was tried on and found no name gives no name
either where it is written shorter from a later brace on. -/
theorem expressionName?_shortened {front inner inner' : List Char}
    (h : expressionName? (front ++ '\x7b' :: inner) = none) :
    expressionName? (front ++ '\x7b' :: inner') = none := by
  by_cases hcolon : ':' ∈ front
  · obtain ⟨before, after, rfl, hbefore⟩ := List.eq_append_cons_of_mem hcolon
    have hsame : ∀ more, (before ++ ':' :: after ++ more).takeWhile (· != ':') = before := by
      intro more
      rw [List.append_assoc, List.cons_append, Text.takeWhile_ne_append hbefore]
    rw [expressionName?_eq, hsame] at h ⊢
    exact h
  · have hopen : '\x7b' ∈ (front ++ '\x7b' :: inner').takeWhile (· != ':') := by
      have hfront : ∀ c ∈ front, (c != ':') = true := by
        intro c hc
        have hne : c ≠ ':' := fun he => hcolon (he ▸ hc)
        simpa using hne
      rw [List.takeWhile_append_of_pos hfront, List.takeWhile_cons_of_pos (by decide)]
      simp
    exact expressionName?_eq_none hopen (by decide) (by decide)

/-! ## Writing and parsing again -/

/-- The text up to the first closing brace is written as it
is, or else it is cut short from some opening brace on. -/
theorem chars_up_to_brace (s : List Char) {inner rest : List Char}
    (hs : s = inner ++ '\x7d' :: rest) (hinner : '\x7d' ∉ inner) :
    ∃ inner' rest', (parseChunks s).flatMap chunkChars = inner' ++ '\x7d' :: rest' ∧
      '\x7d' ∉ inner' ∧
      (inner' = inner ∨ ∃ front x x', inner = front ++ '\x7b' :: x ∧ inner' = front ++ '\x7b' :: x') := by
  induction s using parseChunks.induct generalizing inner rest with
  | case1 => simp at hs
  | case2 r name after hr ih =>
    obtain ⟨x, hx, hname, rfl⟩ := placeholder?_eq_some hr
    have hbrace : '\x7d' ∉ '\x7b' :: x := by simpa using hx
    obtain ⟨rfl, -⟩ := (Text.append_sep_inj hbrace hinner).mp hs
    refine ⟨'\x7b' :: name.toList, (parseChunks after).flatMap chunkChars, ?_, ?_,
      .inr ⟨[], x, name.toList, rfl, rfl⟩⟩
    · rw [parseChunks_placeholder hr]
      simp [chunkChars]
    · have hclose : '\x7d' ∉ name.toList := brace_not_mem_name hname (by decide)
      simpa using hclose
  | case3 r hr ih =>
    cases inner with
    | nil => cases hs
    | cons d inner =>
      rw [List.cons_append, List.cons.injEq] at hs
      obtain ⟨rfl, hs⟩ := hs
      rw [List.mem_cons, not_or] at hinner
      obtain ⟨inner', rest', heq, hnot, hshape⟩ := ih hs hinner.2
      refine ⟨'\x7b' :: inner', rest', ?_, by simpa using hnot, ?_⟩
      · rw [parseChunks_brace hr, chars_consLiteral, heq, List.cons_append]
      · obtain rfl | ⟨front, x, x', rfl, rfl⟩ := hshape
        · exact .inl rfl
        · exact .inr ⟨'\x7b' :: front, x, x', rfl, rfl⟩
  | case4 c r hc ih =>
    cases inner with
    | nil =>
      rw [List.nil_append, List.cons.injEq] at hs
      obtain ⟨rfl, rfl⟩ := hs
      refine ⟨[], (parseChunks r).flatMap chunkChars, ?_, List.not_mem_nil, .inl rfl⟩
      rw [parseChunks_text hc, chars_consLiteral, List.nil_append]
    | cons d inner =>
      rw [List.cons_append, List.cons.injEq] at hs
      obtain ⟨rfl, hs⟩ := hs
      rw [List.mem_cons, not_or] at hinner
      obtain ⟨inner', rest', heq, hnot, hshape⟩ := ih hs hinner.2
      refine ⟨c :: inner', rest', ?_, ?_, ?_⟩
      · rw [parseChunks_text hc, chars_consLiteral, heq, List.cons_append]
      · simp [hinner.1, hnot]
      · obtain rfl | ⟨front, x, x', rfl, rfl⟩ := hshape
        · exact .inl rfl
        · exact .inr ⟨c :: front, x, x', rfl, rfl⟩

theorem placeholder?_eq_none {inner : List Char} (hinner : '\x7d' ∉ inner) (rest : List Char) :
    placeholder? (inner ++ '\x7d' :: rest) = none ↔ expressionName? inner = none := by
  rw [placeholder?, Text.splitFirst_append hinner]
  simp

theorem chars_of_not_mem {s : List Char} (h : '\x7d' ∉ s) :
    (parseChunks s).flatMap chunkChars = s := by
  rw [chars_parseChunks_iff]
  rintro inner name ⟨-, -, before, after, rfl⟩
  exact absurd (by simp) h

/-- A brace that opens no placeholder opens none after the rest was written and more text was added,
where it opens none in the text as it was. -/
theorem placeholder?_written {r : List Char} (h : placeholder? r = none) (b : List Char)
    (hb : '\x7d' ∈ r) :
    placeholder? (r ++ b) = none ∧
    placeholder? ((parseChunks r).flatMap chunkChars ++ b) = none := by
  obtain ⟨inner, rest, hs, hinner⟩ := List.eq_append_cons_of_mem hb
  rw [hs] at h
  have hname := (placeholder?_eq_none hinner rest).mp h
  obtain ⟨inner', rest', heq, hinner', hshape⟩ := chars_up_to_brace r hs hinner
  have hname' : expressionName? inner' = none := by
    obtain rfl | ⟨front, x, x', rfl, rfl⟩ := hshape
    · exact hname
    · exact expressionName?_shortened hname
  constructor
  · rw [hs, List.append_assoc, List.cons_append]
    exact (placeholder?_eq_none hinner (rest ++ b)).mpr hname
  · rw [heq, List.append_assoc, List.cons_append]
    exact (placeholder?_eq_none hinner' (rest' ++ b)).mpr hname'

theorem parseChunks_chars_append (a b : List Char) :
    parseChunks ((parseChunks a).flatMap chunkChars ++ b) = parseChunks (a ++ b) := by
  induction a using parseChunks.induct with
  | case1 => rw [parseChunks]; rfl
  | case2 r name rest hr ih =>
    obtain ⟨inner, hinner, hname, rfl⟩ := placeholder?_eq_some hr
    have hwritten : (parseChunks ('\x7b' :: (inner ++ '\x7d' :: rest))).flatMap chunkChars ++ b =
        '\x7b' :: (name.toList ++ '\x7d' :: ((parseChunks rest).flatMap chunkChars ++ b)) := by
      rw [parseChunks_placeholder hr]
      simp [chunkChars]
    have hgiven : '\x7b' :: (inner ++ '\x7d' :: rest) ++ b =
        '\x7b' :: (inner ++ '\x7d' :: (rest ++ b)) := by
      simp
    have hclose : '\x7d' ∉ name.toList := brace_not_mem_name hname (by decide)
    rw [hwritten, hgiven, parseChunks_placeholder (placeholder?_append hclose (expressionName?_name hname) _),
      parseChunks_placeholder (placeholder?_append hinner hname _), ih]
  | case3 r hr ih =>
    rw [parseChunks_brace hr, chars_consLiteral, List.cons_append, List.cons_append]
    by_cases hb : '\x7d' ∈ r
    · obtain ⟨hgiven, hwritten⟩ := placeholder?_written hr b hb
      rw [parseChunks_brace hgiven, parseChunks_brace hwritten, ih]
    · -- nothing was dropped, so `b` may well close the brace, but then it does so in both texts
      rw [chars_of_not_mem hb]
  | case4 c r hc ih =>
    rw [parseChunks_text hc, chars_consLiteral, List.cons_append, List.cons_append, parseChunks_text hc,
      parseChunks_text hc, ih]

/-! ## Chunks and the text they were read from -/

inductive SpelledAs : Chunk → List Char → Prop where
  | literal (text : List Char) : SpelledAs (.literal text) text
  | expression {name : String} (inner : List Char) (closed : '\x7d' ∉ inner)
    (named : Text.trim (inner.takeWhile (· != ':')) = name.toList) :
    SpelledAs (.expression name) ('\x7b' :: inner ++ ['\x7d'])

def Apart (c d : Chunk) : Prop := ∀ text text', ¬ (c = .literal text ∧ d = .literal text')

theorem named_of_expressionName {inner : List Char} {name : String}
    (h : expressionName? inner = some name) :
    Text.trim (inner.takeWhile (· != ':')) = name.toList := by
  rw [expressionName?_eq] at h
  split at h
  · cases h
    rw [String.toList_ofList]
  · cases h

theorem spelled_consLiteral {c : Char} {cs : List Chunk} {pieces : List (List Char)}
    (h : List.Forall₂ SpelledAs cs pieces) :
    ∃ pieces', List.Forall₂ SpelledAs (consLiteral c cs) pieces' ∧
      pieces'.flatten = c :: pieces.flatten := by
  cases h with
  | nil => exact ⟨[[c]], .cons (.literal [c]) .nil, rfl⟩
  | @cons d piece cs pieces hd hrest =>
    cases hd with
    | literal => exact ⟨(c :: _) :: pieces, .cons (.literal _) hrest, rfl⟩
    | expression inner closed named =>
      exact ⟨[c] :: _ :: pieces, .cons (.literal [c]) (.cons (.expression inner closed named) hrest), rfl⟩

theorem exists_spelled (s : List Char) :
    ∃ pieces, List.Forall₂ SpelledAs (parseChunks s) pieces ∧ pieces.flatten = s := by
  induction s using parseChunks.induct with
  | case1 => exact ⟨[], by rw [parseChunks]; exact .nil, rfl⟩
  | case2 r name rest hr ih =>
    obtain ⟨inner, hinner, hname, rfl⟩ := placeholder?_eq_some hr
    obtain ⟨pieces, hpieces, hflat⟩ := ih
    rw [parseChunks_placeholder hr]
    exact ⟨_, .cons (.expression inner hinner (named_of_expressionName hname)) hpieces, by simp [hflat]⟩
  | case3 r hr ih =>
    obtain ⟨pieces, hpieces, hflat⟩ := ih
    obtain ⟨pieces', hpieces', hflat'⟩ := spelled_consLiteral (c := '\x7b') hpieces
    rw [parseChunks_brace hr]
    exact ⟨pieces', hpieces', by rw [hflat', hflat]⟩
  | case4 c r hc ih =>
    obtain ⟨pieces, hpieces, hflat⟩ := ih
    obtain ⟨pieces', hpieces', hflat'⟩ := spelled_consLiteral (c := c) hpieces
    rw [parseChunks_text hc]
    exact ⟨pieces', hpieces', by rw [hflat', hflat]⟩

theorem mem_of_literal {s text : List Char} {c : Char} (h : .literal text ∈ parseChunks s)
    (hc : c ∈ text) : c ∈ s := by
  obtain ⟨pieces, hpieces, rfl⟩ := exists_spelled s
  obtain ⟨k, hk, hget⟩ := List.getElem_of_mem h
  have hk' : k < pieces.length := hpieces.length_eq ▸ hk
  have hspelled := hpieces.get hk hk'
  simp only [List.get_eq_getElem, hget] at hspelled
  cases hspelled
  exact List.mem_flatten.mpr ⟨_, List.getElem_mem hk', hc⟩

theorem apart_consLiteral {c : Char} {cs : List Chunk} (h : cs.IsChain Apart) :
    (consLiteral c cs).IsChain Apart := by
  cases cs with
  | nil => exact .singleton _
  | cons d cs =>
    cases d with
    | literal text =>
      cases cs with
      | nil => exact .singleton _
      | cons e cs =>
        obtain ⟨hde, hrest⟩ := List.isChain_cons_cons.mp h
        refine List.isChain_cons_cons.mpr ⟨?_, hrest⟩
        rintro _ text' ⟨-, rfl⟩
        exact hde text text' ⟨rfl, rfl⟩
    | expression name =>
      refine List.isChain_cons_cons.mpr ⟨?_, h⟩
      rintro _ _ ⟨-, he⟩
      cases he

theorem apart_parseChunks (s : List Char) : (parseChunks s).IsChain Apart := by
  induction s using parseChunks.induct with
  | case1 => rw [parseChunks]; exact .nil
  | case2 r name rest hr ih =>
    rw [parseChunks_placeholder hr]
    refine List.isChain_cons.mpr ⟨?_, ih⟩
    rintro d - _ _ ⟨he, -⟩
    cases he
  | case3 r hr ih => rw [parseChunks_brace hr]; exact apart_consLiteral ih
  | case4 c r hc ih => rw [parseChunks_text hc]; exact apart_consLiteral ih

/-! ## Literal chunks -/

theorem mem_consLiteral {c : Char} {cs : List Chunk} {text : List Char}
    (h : .literal text ∈ consLiteral c cs) :
    .literal text ∈ cs ∨ text = [c] ∨ ∃ text' rest, cs = .literal text' :: rest ∧
    text = c :: text' := by
  cases cs with
  | nil =>
    have h : Chunk.literal text ∈ [.literal [c]] := h
    cases List.mem_singleton.mp h
    exact .inr (.inl rfl)
  | cons d cs =>
    cases d with
    | literal text' =>
      have h : Chunk.literal text ∈ .literal (c :: text') :: cs := h
      obtain h | h := List.mem_cons.mp h
      · cases h
        exact .inr (.inr ⟨text', cs, rfl, rfl⟩)
      · exact .inl (List.mem_cons_of_mem _ h)
    | expression name =>
      have h : Chunk.literal text ∈ .literal [c] :: .expression name :: cs := h
      obtain h | h := List.mem_cons.mp h
      · cases h
        exact .inr (.inl rfl)
      · exact .inl h

/-- A text at the front of a template is at the front of what the template was parsed from. -/
theorem eq_append_of_parseChunks {s text : List Char} {cs : List Chunk}
    (h : parseChunks s = .literal text :: cs) :
    ∃ rest, s = text ++ rest := by
  obtain ⟨pieces, hpieces, rfl⟩ := exists_spelled s
  rw [h] at hpieces
  cases hpieces with
  | cons hd hrest =>
    cases hd with
    | literal => exact ⟨_, List.flatten_cons⟩

theorem placeholder?_front {text rest : List Char} (h : placeholder? (text ++ rest) = none) :
    placeholder? text = none := by
  cases ht : placeholder? text with
  | none => rfl
  | some q =>
    obtain ⟨name, after⟩ := q
    obtain ⟨inner, hinner, hname, rfl⟩ := placeholder?_eq_some ht
    have hsome := placeholder?_append hinner hname (after ++ rest)
    rw [List.append_assoc, List.cons_append, hsome] at h
    cases h

theorem parseChunks_of_literal (s : List Char) :
    ∀ text, .literal text ∈ parseChunks s → parseChunks text = [.literal text] := by
  induction s using parseChunks.induct with
  | case1 => intro text h; rw [parseChunks] at h; cases h
  | case2 r name rest hr ih =>
    intro text h
    rw [parseChunks_placeholder hr, List.mem_cons] at h
    obtain h | h := h
    · cases h
    · exact ih text h
  | case3 r hr ih =>
    intro text h
    rw [parseChunks_brace hr] at h
    obtain h | rfl | ⟨text', cs, hcs, rfl⟩ := mem_consLiteral h
    · exact ih text h
    · rw [parseChunks_brace rfl, parseChunks]
      rfl
    · -- the front of what the brace was tried on opens no placeholder either
      obtain ⟨rest, rfl⟩ := eq_append_of_parseChunks hcs
      rw [parseChunks_brace (placeholder?_front hr), ih text' (by rw [hcs]; exact List.mem_cons_self), consLiteral]
  | case4 c r hc ih =>
    intro text h
    rw [parseChunks_text hc] at h
    obtain h | rfl | ⟨text', cs, hcs, rfl⟩ := mem_consLiteral h
    · exact ih text h
    · rw [parseChunks_text hc, parseChunks]
      rfl
    · rw [parseChunks_text hc, ih text' (by rw [hcs]; exact List.mem_cons_self), consLiteral]

theorem plain_of_literal {text : List Char} (h : parseChunks text = [.literal text]) :
    Plain text := by
  rw [← placeholders_parseChunks_iff, h]
  rfl

/-! ## The law of parsing -/

/-- A template that is written and parsed again, whatever text is put behind it, is the one that is
parsed from the text as it was given. Its chunks in their order spell that text; no text among them
is empty or next to another one, and each is read as itself and holds no placeholder. -/
theorem parse_stable (a b : String) :
    ofString ((ofString a).text ++ b) = ofString (a ++ b) ∧
    ofString (ofString a).text = ofString a ∧
    .literal [] ∉ (ofString a).chunks ∧ (ofString a).chunks.IsChain Apart ∧
    (∀ text, .literal text ∈ (ofString a).chunks → parse text = ⟨[.literal text]⟩ ∧ Plain text) ∧
    ∃ pieces, List.Forall₂ SpelledAs (ofString a).chunks pieces ∧ a.toList = pieces.flatten := by
  have hstable : ∀ b : String, ofString ((ofString a).text ++ b) = ofString (a ++ b) := by
    intro b
    have hchars := parseChunks_chars_append a.toList b.toList
    have hwritten : ((ofString a).text ++ b).toList =
        (parseChunks a.toList).flatMap chunkChars ++ b.toList := by
      rw [String.toList_append, Template.text, String.toList_ofList]
      rfl
    rw [ofString, hwritten, parse, hchars, ofString, String.toList_append, parse]
  have hliteral := parseChunks_of_literal a.toList
  refine ⟨hstable b, ?_, ?_, apart_parseChunks a.toList, ?_, ?_⟩
  · simpa using hstable ""
  · intro hempty
    have := hliteral [] hempty
    rw [parseChunks] at this
    cases this
  · intro text htext
    have hself := hliteral text htext
    exact ⟨congrArg Template.mk hself, plain_of_literal hself⟩
  · obtain ⟨pieces, hpieces, hflat⟩ := exists_spelled a.toList
    exact ⟨pieces, hpieces, hflat.symm⟩

/-- A pattern with a brace in it is dropped, and a brace
that is left open is closed by what comes after. -/
example : (ofString "\x7b a:\x7b\x7d\x7bb").text = "\x7ba\x7d\x7bb" ∧
    (ofString "\x7ba\x7d\x7bb\x7d").placeholders = ["a", "b"] := by decide +kernel

end Template

end DeclarativeHttp
