import DeclarativeHttp.Proofs.QueryLine

/-!
# Braces that are left in a URL

A URI text is cut at its delimiters before placeholders are looked for. Those of its path and of the
values of its query give way to text without braces, while its base and the names of its query are
no templates and keep the braces that they have (`unbraced_url`).
-/

namespace DeclarativeHttp

def Text.Unbraced (s : List Char) : Prop := '\x7b' ∉ s ∧ '\x7d' ∉ s

instance (s : List Char) : Decidable (Text.Unbraced s) := inferInstanceAs (Decidable (_ ∧ _))

theorem Text.unbraced_iff {s : List Char} : Unbraced s ↔ ∀ c, c = '\x7b' ∨ c = '\x7d' → c ∉ s := by
  simp [Unbraced]

theorem foldl_iff {σ β : Type} (P : σ → Prop) (Q : β → Prop) {f : σ → β → σ}
    (h : ∀ s b, P (f s b) ↔ P s ∨ Q b) (s : σ) (bs : List β) :
    P (bs.foldl f s) ↔ P s ∨ ∃ b ∈ bs, Q b := by
  induction bs generalizing s with
  | nil => simp
  | cons b bs ih =>
    rw [List.foldl_cons, List.exists_mem_cons_iff, ← or_assoc, ← h]
    exact ih (f s b)

namespace Template

variable {delimiters s a b : List Char} {c d : Char}

/-- Every brace of the text belongs to a placeholder, and no delimiter stands in one. -/
inductive Tidy (delimiters : List Char) : List Char → Prop where
  | nil : Tidy delimiters []
  | text {c : Char} {s : List Char} (hopen : c ≠ '\x7b') (hclose : c ≠ '\x7d')
    (hs : Tidy delimiters s) :
    Tidy delimiters (c :: s)
  | placeholder (inner : List Char) {s : List Char} (hinner : Text.Unbraced inner)
    (hname : (expressionName? inner).isSome) (hclear : ∀ d ∈ delimiters, d ∉ inner) (hs : Tidy delimiters s) :
    Tidy delimiters ('\x7b' :: inner ++ '\x7d' :: s)

theorem Tidy.append (a : List Char) (ha : Text.Unbraced a) (h : Tidy delimiters s) :
    Tidy delimiters (a ++ s) := by
  induction a with
  | nil => exact h
  | cons c a ih =>
    obtain ⟨hopen, hopen'⟩ := not_or.mp (List.mem_cons.not.mp ha.1)
    obtain ⟨hclose, hclose'⟩ := not_or.mp (List.mem_cons.not.mp ha.2)
    exact .text (Ne.symm hopen) (Ne.symm hclose) (ih ⟨hopen', hclose'⟩)

theorem Tidy.not_mem_literal (h : Tidy delimiters s) (hc : c = '\x7b' ∨ c = '\x7d') :
    ∀ text, .literal text ∈ (parse s).chunks → c ∉ text := by
  induction h with
  | nil => intro text hmem; rw [parse, parseChunks] at hmem; cases hmem
  | @text d s hopen hclose _ ih =>
    have hd : c ≠ d := by rintro rfl; exact hc.elim hopen hclose
    intro text hmem
    rw [parse, parseChunks_text hopen] at hmem
    obtain hmem | rfl | ⟨text', cs, hcs, rfl⟩ := mem_consLiteral hmem
    · exact ih text hmem
    · simpa using hd
    · exact List.not_mem_cons_of_ne_of_not_mem hd (ih text' (by rw [parse, hcs]; exact List.mem_cons_self))
  | @placeholder inner s hinner hname _ _ ih =>
    obtain ⟨name, hname⟩ := Option.isSome_iff_exists.mp hname
    intro text hmem
    rw [parse, List.cons_append, parseChunks_placeholder (placeholder?_append hinner.2 hname s)] at hmem
    obtain hmem | hmem := List.mem_cons.mp hmem
    · cases hmem
    · exact ih text hmem

/-! ## Cutting tidy texts -/

theorem Tidy.forget (h : Tidy delimiters s) : Tidy [] s := by
  induction h with
  | nil => exact .nil
  | text hopen hclose _ ih => exact .text hopen hclose ih
  | placeholder inner hinner hname _ _ ih => exact .placeholder inner hinner hname (by simp) ih

theorem Tidy.of_cons (h : Tidy delimiters (c :: s)) (hc : c ≠ '\x7b') : Tidy delimiters s := by
  cases h with
  | text _ _ hs => exact hs
  | placeholder => exact absurd rfl hc

theorem Tidy.of_append (h : Tidy delimiters (a ++ s)) (ha : '\x7b' ∉ a) : Tidy delimiters s := by
  induction a with
  | nil => exact h
  | cons c a ih =>
    rw [List.mem_cons, not_or] at ha
    exact ih (h.of_cons (Ne.symm ha.1)) ha.2

/-- A delimiter stands between the placeholders of a tidy text, so both of its sides are tidy. -/
theorem Tidy.cut (h : Tidy delimiters (a ++ d :: b)) (hd : d ∈ delimiters) (hopen : d ≠ '\x7b')
    (hclose : d ≠ '\x7d') :
    Tidy delimiters a ∧ Tidy delimiters b := by
  generalize hs : a ++ d :: b = s at h
  induction h generalizing a with
  | nil => simp at hs
  | text hopen' hclose' hrest ih =>
    cases a with
    | nil => cases hs; exact ⟨.nil, hrest⟩
    | cons c a =>
      cases hs
      obtain ⟨ha, hb⟩ := ih rfl
      exact ⟨.text hopen' hclose' ha, hb⟩
  | @placeholder inner rest hinner hname hclear hrest ih =>
    -- the delimiter is not in the placeholder, so all of that is to its left
    have hfront : d ∉ '\x7b' :: inner ++ ['\x7d'] := by simp [hopen, hclose, hclear d hd]
    rw [List.append_cons _ '\x7d'] at hs
    obtain ⟨x, rfl, hx⟩ := Text.exists_of_append_eq hs hfront
    obtain ⟨hleft, hright⟩ := ih hx.symm
    refine ⟨?_, hright⟩
    rw [List.append_assoc]
    exact .placeholder inner hinner hname hclear hleft

theorem Tidy.of_dropWhile {p : Char → Bool} (h : Tidy delimiters s)
    (hp : ∀ c, p c = false → c ∈ delimiters) (hopen : p '\x7b' = true) (hclose : p '\x7d' = true) :
    Tidy delimiters (s.dropWhile p) := by
  cases hrest : s.dropWhile p with
  | nil => exact .nil
  | cons d rest =>
    have hd : p d = false := by
      have hhead := List.head?_dropWhile_not p s
      rw [hrest] at hhead
      simpa using hhead
    have hd' : d ≠ '\x7b' ∧ d ≠ '\x7d' := by
      constructor <;> rintro rfl
      · rw [hopen] at hd; cases hd
      · rw [hclose] at hd; cases hd
    rw [← List.takeWhile_append_dropWhile (p := p) (l := s), hrest] at h
    exact .text hd'.1 hd'.2 (h.cut (hp d hd) hd'.1 hd'.2).2

theorem Tidy.of_splitOn (hd : d ∈ delimiters) (hopen : d ≠ '\x7b') (hclose : d ≠ '\x7d')
    (h : Tidy delimiters s) :
    ∀ piece ∈ s.splitOn d, Tidy delimiters piece := by
  induction s using Text.pieces_induction d with
  | piece s hs =>
    rw [List.splitOn_eq_singleton hs]
    simpa using h
  | step a b ha ih =>
    obtain ⟨hleft, hright⟩ := h.cut hd hopen hclose
    rw [List.splitOn_append_cons_self, List.splitOn_eq_singleton ha, List.singleton_append]
    exact List.forall_mem_cons.mpr ⟨hleft, ih hright⟩

/-! ## Values -/

theorem expandValues_ne_nil {t : Template} {vars : Variables}
    (h : ∀ n ∈ t.placeholders, (vars.value? n).isSome) (place : Place) (format : CollectionFormat) :
    t.expandValues vars place format ≠ [] := by
  unfold expandValues
  split
  · rename_i values hvalues
    unfold exploded? at hvalues
    split at hvalues
    · rename_i name hchunks
      have hname := h name (by simp [placeholders, hchunks])
      unfold Variables.value? at hname
      split at hvalues
      · rename_i hv
        cases hvalues
        rw [hv] at hname
        cases values with
        | nil => cases hname
        | cons v values => simp
      · cases hvalues
    · cases hvalues
  · rw [if_neg]
    · exact List.cons_ne_nil _ _
    · rw [isUnresolved]
      cases hnames : t.placeholders with
      | nil => simp
      | cons n names =>
        have hn := h n (by rw [hnames]; exact List.mem_cons_self)
        simp [Option.isSome_iff_ne_none.mp hn]

end Template

namespace RequestTemplate

variable {t : RequestTemplate} {vars : Variables} {u delimiters : List Char} {c : Char}

/-! ## The parts of a URI text -/

def uriPairs (u : List Char) : List (List Char) := (splitQuery (splitBase u).2).2.elim [] queryPairs

def filledIn (u : List Char) : List (List Char) :=
  (splitQuery (splitBase u).2).1 :: (uriPairs u).filterMap fun pair =>
    (Text.splitFirst '=' pair).map Prod.snd

/-- What stays as it is written in a URI text: its base and the names of its query. -/
def asWritten (u : List Char) : List (List Char) :=
  (splitBase u).1.getD [] :: (uriPairs u).map fun pair => (readPair pair).1

theorem tidy_splitBase (h : Template.Tidy "/?&=".toList u) :
    Template.Tidy "/?&=".toList (splitBase u).2 := by
  unfold splitBase
  cases habsolute : absolute? u with
  | none => exact h
  | some found =>
    obtain ⟨heq, hscheme⟩ := absolute?_eq habsolute
    -- the scheme has no braces, and what ends the authority is a delimiter
    have hopen : '\x7b' ∉ found.1 := by obtain he | he := hscheme <;> rw [he] <;> decide
    rw [heq] at h
    refine (h.of_append hopen).of_dropWhile (fun c hc => ?_) (by decide) (by decide)
    obtain rfl | rfl : c = '/' ∨ c = '?' := Decidable.or_iff_not_imp_left.mpr (by simpa using hc)
    all_goals decide

theorem tidy_splitQuery (hd : '?' ∈ delimiters) (h : Template.Tidy delimiters u) :
    Template.Tidy delimiters (splitQuery u).1 ∧ ∀ line, (splitQuery u).2 = some line →
    Template.Tidy delimiters line := by
  unfold splitQuery
  cases hsplit : Text.splitFirst '?' u with
  | none => exact ⟨h, fun line hline => by cases hline⟩
  | some parts =>
    rw [Text.splitFirst_eq hsplit] at h
    obtain ⟨hpath, hline⟩ := h.cut hd (by decide) (by decide)
    exact ⟨hpath, fun line he => by cases he; exact hline⟩

/-- Placeholders that hold no delimiter are not cut apart. -/
theorem tidy_filledIn (h : Template.Tidy "/?&=".toList u) :
    ∀ s ∈ filledIn u, Template.Tidy [] s := by
  obtain ⟨hpath, hquery⟩ := tidy_splitQuery (by decide) (tidy_splitBase h)
  refine List.forall_mem_cons.mpr ⟨hpath.forget, fun s hs => ?_⟩
  obtain ⟨pair, hpair, hvalue⟩ := List.mem_filterMap.mp hs
  obtain ⟨⟨name, value⟩, hsplit, rfl⟩ := Option.map_eq_some_iff.mp hvalue
  unfold uriPairs at hpair
  cases hline : (splitQuery (splitBase u).2).2 with
  | none => rw [hline] at hpair; cases hpair
  | some line =>
    rw [hline] at hpair
    have htidy := (hquery line hline).of_splitOn (by decide) (by decide) (by decide) pair (List.mem_filter.mp hpair).1
    rw [Text.splitFirst_eq hsplit] at htidy
    exact (htidy.cut (by decide) (by decide) (by decide)).2.forget

/-! ## The queries of a URI text -/

theorem mem_names_addQueryLine {name : String} (line : List Char) (t : RequestTemplate) :
    name ∈ (t.addQueryLine line).queries.map Prod.fst ↔
      name ∈ t.queries.map Prod.fst ∨
        ∃ pair ∈ queryPairs line, name = String.ofList (readPair pair).1 := by
  have hname : ∀ pair, (readParam pair).1 = String.ofList (readPair pair).1 := by
    intro pair
    unfold readParam readPair
    cases Text.splitFirst '=' pair <;> rfl
  rw [addQueryLine_queries]
  refine foldl_iff (fun qs : Multimap Template => name ∈ qs.map Prod.fst)
    (fun pair => name = String.ofList (readPair pair).1) ?_ _ _
  intro qs pair
  rw [Multimap.mem_names_extend, hname]

theorem mem_values_addQueryLine {v : Template} (line : List Char) (t : RequestTemplate) :
    v ∈ (t.addQueryLine line).queries.flatMap Prod.snd ↔ v ∈ t.queries.flatMap Prod.snd ∨
      ∃ pair ∈ queryPairs line, ∃ parts, Text.splitFirst '=' pair = some parts ∧
        v = Template.parse parts.2 := by
  have hvalues : ∀ pair, v ∈ (readParam pair).2 ↔
      ∃ parts, Text.splitFirst '=' pair = some parts ∧ v = Template.parse parts.2 := by
    intro pair
    unfold readParam
    cases Text.splitFirst '=' pair <;> simp
  rw [addQueryLine_queries]
  refine foldl_iff (fun qs : Multimap Template => v ∈ qs.flatMap Prod.snd)
    (fun pair => ∃ parts, Text.splitFirst '=' pair = some parts ∧ v = Template.parse parts.2) ?_ _ _
  intro qs pair
  rw [Multimap.mem_values_extend, hvalues]

theorem mem_names_setUri {name : String} :
    name ∈ (empty.setUri u).queries.map Prod.fst ↔
      ∃ pair ∈ uriPairs u, name = String.ofList (readPair pair).1 := by
  rw [setUri_queries, uriPairs]
  cases (splitQuery (splitBase u).2).2 with
  | none => simp [empty]
  | some line => exact (mem_names_addQueryLine line empty).trans (by simp [empty])

theorem mem_values_setUri {v : Template} (h : v ∈ (empty.setUri u).queries.flatMap Prod.snd) :
    ∃ s ∈ filledIn u, v = Template.parse s := by
  rw [setUri_queries] at h
  unfold filledIn uriPairs
  cases hquery : (splitQuery (splitBase u).2).2 with
  | none => rw [hquery] at h; cases h
  | some line =>
    rw [hquery] at h
    obtain h | ⟨pair, hpair, parts, hsplit, rfl⟩ := (mem_values_addQueryLine line empty).mp h
    · cases h
    · refine ⟨parts.2, List.mem_cons_of_mem _ (List.mem_filterMap.mpr ⟨pair, hpair, ?_⟩), rfl⟩
      rw [hsplit]
      rfl

/-! ## What a resolved query line holds -/

theorem mem_queryLine (hc : c ≠ '&') : c ∈ t.queryLine ↔ ∃ piece ∈ t.queryPieces, c ∈ piece :=
  ⟨fun h => (Text.mem_intercalate h).resolve_left (by simpa using hc), fun ⟨_, hpiece, hmem⟩ =>
    Text.mem_intercalate_of_mem hpiece hmem⟩

theorem not_mem_queryLine (hescaped : Place.query.escapes c = true) (hpercent : c ≠ '%')
    (hequals : c ≠ '=') (hand : c ≠ '&') (hnames : ∀ name ∈ t.queries.map Prod.fst, c ∉ name.toList)
    (hvalues : ∀ v ∈ t.queries.flatMap Prod.snd, ∀ text, .literal text ∈ v.chunks → c ∉ text) :
    c ∉ (t.resolve vars).queryLine := by
  rw [mem_queryLine hand, queryPieces_resolve]
  rintro ⟨piece, hpiece, hmem⟩
  obtain ⟨p, hp, hpiece⟩ := List.mem_flatMap.mp hpiece
  have hname := hnames p.1 (List.mem_map_of_mem hp)
  split at hpiece
  · rw [List.mem_singleton.mp hpiece] at hmem
    exact hname hmem
  · obtain ⟨x, hx, rfl⟩ := List.mem_map.mp hpiece
    obtain ⟨v, hv, hx⟩ := List.mem_flatMap.mp hx
    have hliteral := hvalues v (List.mem_flatMap.mpr ⟨p, hp, hv⟩)
    rw [List.mem_append, List.mem_cons] at hmem
    obtain hmem | hmem | hmem := hmem
    · exact hname hmem
    · exact hequals hmem
    · exact Template.not_mem_expandValues hescaped hpercent hliteral x hx hmem

theorem mem_queryLine_of_name {name : String} (hand : c ≠ '&')
    (hname : name ∈ t.queries.map Prod.fst) (hc : c ∈ name.toList)
    (hvalues : ∀ v ∈ t.queries.flatMap Prod.snd, v.expandValues vars .query t.format ≠ []) :
    c ∈ (t.resolve vars).queryLine := by
  obtain ⟨p, hp, rfl⟩ := List.mem_map.mp hname
  suffices h : ∃ piece ∈ (t.resolve vars).queryPieces, c ∈ piece from (mem_queryLine hand).mpr h
  simp only [queryPieces_resolve, List.mem_flatMap]
  cases hvs : p.2 with
  | nil => exact ⟨p.1.toList, ⟨p, hp, by simp [hvs]⟩, hc⟩
  | cons v vs =>
    have hv : v ∈ p.2 := by rw [hvs]; exact List.mem_cons_self
    obtain ⟨x, hx⟩ := List.exists_mem_of_ne_nil _ (hvalues v (List.mem_flatMap.mpr ⟨p, hp, hv⟩))
    refine ⟨p.1.toList ++ '=' :: x, ⟨p, hp, ?_⟩, List.mem_append_left _ hc⟩
    rw [if_neg (by simp [hvs])]
    exact List.mem_map.mpr ⟨x, List.mem_flatMap.mpr ⟨v, hv, hx⟩, rfl⟩

theorem mem_url (hc : c ≠ '?') :
    c ∈ t.url ↔ c ∈ t.target.getD [] ∨ c ∈ t.path ∨ c ∈ t.queryLine := by
  have hend : c ∈ (if t.queryLine.isEmpty then [] else '?' :: t.queryLine) ↔ c ∈ t.queryLine := by
    split
    · rename_i hempty
      rw [List.isEmpty_iff.mp hempty]
    · exact List.mem_cons.trans (or_iff_right hc)
  rw [url, List.mem_append, List.mem_append, hend, or_assoc]

/-! ## Braces that are left -/

theorem path_resolve (vars : Variables) (t : RequestTemplate) :
    (t.resolve vars).path = t.uri.expand vars (.path t.decodeSlash) t.format :=
  Template.chars_literal _

section

variable (hu : ∀ s ∈ filledIn u, Template.Tidy [] s) (hc : c = '\x7b' ∨ c = '\x7d')
include hu hc

theorem not_mem_url (vars : Variables) (hwritten : ∀ s ∈ asWritten u, c ∉ s) :
    c ∉ ((empty.setUri u).resolve vars).url := by
  obtain ⟨hbase, hnames⟩ := List.forall_mem_cons.mp hwritten
  have hquestion : c ≠ '?' := by obtain rfl | rfl := hc <;> decide
  have hpercent : c ≠ '%' := by obtain rfl | rfl := hc <;> decide
  have hescaped : ∀ place : Place, place ≠ .raw → place.escapes c = true := by
    rintro (keepSlash | _ | _) hplace
    · cases keepSlash <;> obtain rfl | rfl := hc <;> rfl
    · obtain rfl | rfl := hc <;> rfl
    · exact absurd rfl hplace
  rw [mem_url hquestion, path_resolve, setUri_uri]
  rintro (h | h | h)
  · exact hbase (setUri_target u ▸ h)
  · exact Template.not_mem_expand (hescaped _ (by simp)) hpercent ((hu _ List.mem_cons_self).not_mem_literal hc) h
  · refine not_mem_queryLine (hescaped _ (by simp)) hpercent ?_ ?_ ?_ ?_ h
    · obtain rfl | rfl := hc <;> decide
    · obtain rfl | rfl := hc <;> decide
    · intro name hname
      obtain ⟨pair, hpair, rfl⟩ := mem_names_setUri.mp hname
      rw [String.toList_ofList]
      exact hnames _ (List.mem_map_of_mem hpair)
    · intro v hv
      obtain ⟨s, hs, rfl⟩ := mem_values_setUri hv
      exact (hu s hs).not_mem_literal hc

end

theorem mem_url_of_written (hquestion : c ≠ '?') (hand : c ≠ '&')
    (hvars : ∀ n ∈ (empty.setUri u).placeholders, (vars.value? n).isSome) {s : List Char}
    (hs : s ∈ asWritten u) (hc : c ∈ s) :
    c ∈ ((empty.setUri u).resolve vars).url := by
  rw [mem_url hquestion]
  obtain rfl | hs := List.mem_cons.mp hs
  · exact .inl (setUri_target u ▸ hc)
  · obtain ⟨pair, hpair, rfl⟩ := List.mem_map.mp hs
    refine .inr (.inr (mem_queryLine_of_name hand (mem_names_setUri.mpr ⟨pair, hpair, rfl⟩) ?_ fun v hv => ?_))
    · rwa [String.toList_ofList]
    · refine Template.expandValues_ne_nil (fun n hn => hvars n (mem_placeholders.mpr (.inl ?_))) _ _
      refine List.any_eq_true.mpr ⟨v, ?_, by simpa using hn⟩
      rw [requestParts, List.flatMap_append]
      exact List.mem_cons_of_mem _ (List.mem_append_left _ hv)

/-- If every brace of its path and of the values of its query belongs to a placeholder there, a URI
text becomes a URL without braces where there are none in its base and in the names of its query,
and, if all placeholders stand for something, only there. -/
theorem unbraced_url (hu : ∀ s ∈ filledIn u, Template.Tidy [] s) (vars : Variables) :
    ((∀ s ∈ asWritten u, Text.Unbraced s) → Text.Unbraced ((empty.setUri u).resolve vars).url) ∧
      ((∀ n ∈ (empty.setUri u).placeholders, (vars.value? n).isSome) →
        Text.Unbraced ((empty.setUri u).resolve vars).url →
        ∀ s ∈ asWritten u, Text.Unbraced s) := by
  constructor
  · intro hwritten
    refine Text.unbraced_iff.mpr fun c hc => not_mem_url hu hc vars fun s hs => ?_
    exact Text.unbraced_iff.mp (hwritten s hs) c hc
  · intro hvars hurl s hs
    refine Text.unbraced_iff.mpr fun c hc hmem => Text.unbraced_iff.mp hurl c hc ?_
    have hquestion : c ≠ '?' := by obtain rfl | rfl := hc <;> decide
    have hand : c ≠ '&' := by obtain rfl | rfl := hc <;> decide
    exact mem_url_of_written hquestion hand hvars hs hmem

/-- The values themselves have braces. -/
theorem unbraced_url_users :
    let u := "http://api.example/users/{id:[0-9]+}?q={q}&all".toList
    let vars : Variables := fun n => some (if n = "id" then .one "\x7b42\x7d" else .many ["\x7b", "\x7d?"])
    (∀ s ∈ filledIn u, Template.Tidy [] s) ∧
      (∀ n ∈ (empty.setUri u).placeholders, (vars.value? n).isSome) ∧
      (∀ s ∈ asWritten u, Text.Unbraced s) ∧ Text.Unbraced ((empty.setUri u).resolve vars).url := by
  intro u vars
  have htidy : Template.Tidy "/?&=".toList u := by
    refine .append "http://api.example/users/".toList (by decide) ?_
    refine .placeholder "id:[0-9]+".toList (by decide) (by decide) (by simp) ?_
    refine .append "?q=".toList (by decide) ?_
    exact .placeholder "q".toList (by decide) (by decide) (by simp) (.append "&all".toList (by decide) .nil)
  have hu := tidy_filledIn htidy
  have hwritten : ∀ s ∈ asWritten u, Text.Unbraced s := by decide
  exact ⟨hu, by decide +kernel, hwritten, (unbraced_url hu vars).1 hwritten⟩

/-- Neither a host nor the name of a query is filled
in, nor a placeholder that a delimiter cuts apart. -/
theorem braces_left :
    let vars : Variables := fun _ => some (.one "1")
    ∀ u ∈ ["http://{host}/x".toList, "/x?{key}=1".toList, "/x/{id:a?b}".toList],
      Template.Tidy [] u ∧ (∀ n, (vars.value? n).isSome) ∧ ((empty.setUri u).resolve vars).url = u ∧
        ¬ Text.Unbraced ((empty.setUri u).resolve vars).url := by
  intro vars
  have hurl : ∀ u ∈ ["http://{host}/x".toList, "/x?{key}=1".toList, "/x/{id:a?b}".toList],
      ((empty.setUri u).resolve vars).url = u ∧ ¬ Text.Unbraced u := by decide +kernel
  intro u hu
  obtain ⟨hurl, hbraces⟩ := hurl u hu
  refine ⟨?_, fun _ => rfl, hurl, hurl.symm ▸ hbraces⟩
  simp only [List.mem_cons, List.not_mem_nil, or_false] at hu
  obtain rfl | rfl | rfl := hu
  · exact .append "http://".toList (by decide) (.placeholder "host".toList (by decide) (by decide) (by simp)
      (.append "/x".toList (by decide) .nil))
  · exact .append "/x?".toList (by decide) (.placeholder "key".toList (by decide) (by decide) (by simp)
      (.append "=1".toList (by decide) .nil))
  · exact .append "/x/".toList (by decide) (.placeholder "id:a?b".toList (by decide) (by decide) (by simp) .nil)

end RequestTemplate

end DeclarativeHttp
