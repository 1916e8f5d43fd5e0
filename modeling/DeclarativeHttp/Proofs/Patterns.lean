import DeclarativeHttp.Proofs.QueryLine

/-!
# Patterns of placeholders

A URI text is cut at its question mark before its placeholders are read. So the pattern of a
placeholder makes no difference as long as it has no question mark itself (`setUri_pattern_iff`).
-/

namespace DeclarativeHttp

namespace Template

section
variable {name pattern : List Char} (hname : isName name = true)
include hname

theorem expressionName?_of_isName {inner : List Char} (h : inner.takeWhile (· != ':') = name) :
    expressionName? inner = some (String.ofList name) := by
  have htrim : Text.trim name = name :=
    Text.trim_of_forall fun c hc => isBlank_of_isNameChar (isNameChar_of_isName hname c hc)
  rw [expressionName?_eq, h, htrim, if_pos hname]

theorem placeholder?_name (post : List Char) :
    placeholder? (name ++ '\x7d' :: post) = some (String.ofList name, post) := by
  apply placeholder?_append
  · exact not_mem_of_isName hname (by decide)
  · apply expressionName?_of_isName hname
    exact Text.takeWhile_ne_of_not_mem (not_mem_of_isName hname (by decide))

theorem placeholder?_pattern (hpattern : '\x7d' ∉ pattern) (post : List Char) :
    placeholder? (name ++ ':' :: pattern ++ '\x7d' :: post) = some (String.ofList name, post) := by
  apply placeholder?_append
  · have hclose : '\x7d' ∉ name := not_mem_of_isName hname (by decide)
    simp [hclose, hpattern]
  · apply expressionName?_of_isName hname
    exact Text.takeWhile_ne_append (not_mem_of_isName hname (by decide)) pattern

end

end Template

namespace RequestTemplate

theorem splitBase_of_brace {pre : List Char} (h : ¬ "://".toList <:+: pre) (rest : List Char) :
    splitBase (pre ++ '\x7b' :: rest) = (none, pre ++ '\x7b' :: rest) := by
  unfold splitBase
  cases habsolute : absolute? (pre ++ '\x7b' :: rest) with
  | none => rfl
  | some found =>
    exfalso
    obtain ⟨scheme, r⟩ := found
    obtain ⟨heq, hscheme⟩ := absolute?_eq habsolute
    have hbrace : '\x7b' ∉ scheme := by rcases hscheme with rfl | rfl <;> decide
    have hmarks : "://".toList <:+: scheme := by
      rcases hscheme with rfl | rfl
      · exact ⟨"http".toList, [], rfl⟩
      · exact ⟨"https".toList, [], rfl⟩
    obtain ⟨x, rfl, -⟩ := Text.exists_of_append_eq heq hbrace
    exact h (hmarks.trans (List.prefix_append scheme x).isInfix)

theorem setUri_congr {u u' : List Char} (hbase : (splitBase u).1 = (splitBase u').1)
    (hpath : Template.parse (splitQuery (splitBase u).2).1 = Template.parse (splitQuery (splitBase u').2).1)
    (hquery : (splitQuery (splitBase u).2).2 = (splitQuery (splitBase u').2).2)
    (t : RequestTemplate) :
    t.setUri u = t.setUri u' := by
  have hempty : Template.empty.isEmpty = true := rfl
  have hchars : ∀ s : List Char, Template.empty.chars ++ s = s := fun s => rfl
  simp only [setUri, appendUri, hempty, if_true, hchars, hbase, hpath, hquery]

section
variable {pre name pattern post : List Char} (hopen : '\x7b' ∉ pre) (hquestion : '?' ∉ pre)
  (habsolute : ¬ "://".toList <:+: pre) (hname : Template.isName name = true) (hpattern : '\x7d' ∉ pattern)
include hopen hquestion habsolute hname

theorem setUri_placeholder {inner : List Char} (hinner : '?' ∉ inner)
    (hread : ∀ post, Template.placeholder? (inner ++ '\x7d' :: post) = some (String.ofList name, post))
    (post : List Char) (t : RequestTemplate) :
    t.setUri (pre ++ '\x7b' :: (inner ++ '\x7d' :: post)) =
      t.setUri (pre ++ '\x7b' :: (name ++ '\x7d' :: post)) := by
  have hfront : '?' ∉ pre ++ '\x7b' :: (inner ++ ['\x7d']) := by simp [hquestion, hinner]
  have hname' : '?' ∉ name := Template.not_mem_of_isName hname (by decide)
  have hfront' : '?' ∉ pre ++ '\x7b' :: (name ++ ['\x7d']) := by simp [hquestion, hname']
  have hsplit := splitQuery_append_left hfront post
  have hsplit' := splitQuery_append_left hfront' post
  simp only [List.append_assoc, List.cons_append, List.nil_append] at hsplit hsplit'
  apply setUri_congr
  · rw [splitBase_of_brace habsolute, splitBase_of_brace habsolute]
  · rw [splitBase_of_brace habsolute, splitBase_of_brace habsolute, hsplit, hsplit']
    refine congrArg Template.mk (Template.parseChunks_append_congr hopen ?_)
    rw [Template.parseChunks_placeholder (hread _), Template.parseChunks_placeholder (Template.placeholder?_name hname _)]
  · rw [splitBase_of_brace habsolute, splitBase_of_brace habsolute, hsplit, hsplit']

include hpattern

/-- A question mark in the pattern cuts the placeholder in two, so that none is left in the path. -/
theorem placeholders_setUri_cut (hmark : '?' ∈ pattern) (post : List Char) (t : RequestTemplate) :
    (t.setUri (pre ++ '\x7b' :: (name ++ ':' :: pattern ++ '\x7d' :: post))).uri.placeholders =
      [] := by
  obtain ⟨before, after, rfl, hbefore⟩ := List.eq_append_cons_of_mem hmark
  have hname' : '?' ∉ name := Template.not_mem_of_isName hname (by decide)
  have hfront : '?' ∉ pre ++ '\x7b' :: (name ++ ':' :: before) := by
    simp [hquestion, hname', hbefore]
  have hsplit := Text.splitFirst_append hfront (after ++ '\x7d' :: post)
  simp only [List.append_assoc, List.cons_append] at hsplit ⊢
  rw [setUri_uri, splitBase_of_brace habsolute, splitQuery, hsplit]
  show (Template.parse (pre ++ _)).placeholders = []
  rw [Template.placeholders_parse_append hopen, Template.parse, Template.placeholders_parseChunks_iff]
  -- behind the brace no other one is left to close it
  rintro inner found ⟨-, -, l, r, heq⟩
  have hclose : '\x7d' ∈ '\x7b' :: (name ++ ':' :: before) := by simp [heq]
  have hnone : '\x7d' ∉ name := Template.not_mem_of_isName hname (by decide)
  simp at hclose
  rcases hclose with h | h
  · exact hnone h
  · exact hpattern (List.mem_append_left _ h)

/-- A placeholder with a pattern makes the same template as
one without just if the pattern has no question mark. -/
theorem setUri_pattern_iff (t : RequestTemplate) :
    t.setUri (pre ++ '\x7b' :: (name ++ ':' :: pattern ++ '\x7d' :: post)) =
      t.setUri (pre ++ '\x7b' :: (name ++ '\x7d' :: post)) ↔ '?' ∉ pattern := by
  have hname' : '?' ∉ name := Template.not_mem_of_isName hname (by decide)
  constructor
  · intro heq hmark
    have hcut := placeholders_setUri_cut hopen hquestion habsolute hname hpattern hmark post t
    have hfront : '?' ∉ pre ++ '\x7b' :: (name ++ ['\x7d']) := by simp [hquestion, hname']
    have hsplit := splitQuery_append_left hfront post
    simp only [List.append_assoc, List.cons_append, List.nil_append] at hsplit
    rw [heq, setUri_uri, splitBase_of_brace habsolute, hsplit, Template.placeholders_parse_append hopen, Template.parse,
      Template.parseChunks_placeholder (Template.placeholder?_name hname _)] at hcut
    cases hcut
  · intro hmark
    apply setUri_placeholder hopen hquestion habsolute hname
    · simp [hname', hmark]
    · intro post
      exact Template.placeholder?_pattern hname hpattern post

end

/-- A pattern with every other delimiter in it, before a query that has a pattern of its own. -/
theorem setUri_pattern_iff_file :
    let pre := "/files/".toList
    let name := "name".toList
    let pattern := "[^/:&=]+(//:\x7b\x7b2".toList
    let post := ".txt?q=\x7bq:.?\x7d".toList
    '\x7b' ∉ pre ∧ '?' ∉ pre ∧ ¬ "://".toList <:+: pre ∧ Template.isName name = true ∧
    '\x7d' ∉ pattern ∧
      empty.setUri (pre ++ '\x7b' :: (name ++ ':' :: pattern ++ '\x7d' :: post)) =
        empty.setUri (pre ++ '\x7b' :: (name ++ '\x7d' :: post)) := by
  intro pre name pattern post
  have hopen : '\x7b' ∉ pre := by decide
  have hquestion : '?' ∉ pre := by decide
  have habsolute : ¬ "://".toList <:+: pre := by decide +kernel
  have hname : Template.isName name = true := by decide
  have hpattern : '\x7d' ∉ pattern := by decide
  refine ⟨hopen, hquestion, habsolute, hname, hpattern, ?_⟩
  exact (setUri_pattern_iff hopen hquestion habsolute hname hpattern empty).mpr (by decide)

/-- An optional digit takes the placeholder away and makes a query of what is left of it. -/
theorem setUri_pattern_cut :
    let pre := "/items/".toList
    let name := "id".toList
    let pattern := "[0-9]?".toList
    '\x7b' ∉ pre ∧ '?' ∉ pre ∧ ¬ "://".toList <:+: pre ∧ Template.isName name = true ∧
    '\x7d' ∉ pattern ∧
      (empty.setUri (pre ++ '\x7b' :: (name ++ ':' :: pattern ++ ['\x7d']))).placeholders = [] ∧
      (empty.setUri (pre ++ '\x7b' :: (name ++ ['\x7d']))).placeholders = ["id"] ∧
      empty.setUri (pre ++ '\x7b' :: (name ++ ':' :: pattern ++ ['\x7d'])) ≠
        empty.setUri (pre ++ '\x7b' :: (name ++ ['\x7d'])) := by
  intro pre name pattern
  have hcut : (empty.setUri (pre ++ '\x7b' :: (name ++ ':' :: pattern ++ ['\x7d']))).placeholders =
      [] := by decide +kernel
  have hkept : (empty.setUri (pre ++ '\x7b' :: (name ++ ['\x7d']))).placeholders = ["id"] := by
    decide +kernel
  refine ⟨by decide, by decide, by decide +kernel, by decide, by decide, hcut, hkept, fun heq => ?_⟩
  rw [heq, hkept] at hcut
  cases hcut

end RequestTemplate

end DeclarativeHttp
