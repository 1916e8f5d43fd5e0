import DeclarativeHttp.Proofs.Built
import DeclarativeHttp.Proofs.Decoding
import DeclarativeHttp.Proofs.Segments

/-!
# Query lines

A query line is read here as its receiver reads it: it is cut at `&`, each piece at its first `=`,
and the values are unescaped. `readQuery_resolve`: where the values of a query line are
placeholders, what is read after the resolution are the values that the placeholders stand for,
under the names as written.
-/

namespace DeclarativeHttp

namespace Text

variable {sep : Char} {s p : List Char}

theorem not_mem_of_mem_splitOn (h : p ∈ s.splitOn sep) : sep ∉ p := by
  induction s using pieces_induction sep with
  | piece s hs =>
    rw [List.splitOn_eq_singleton hs, List.mem_singleton] at h
    exact h ▸ hs
  | step a b ha ih =>
    rw [List.splitOn_append_cons_self, List.splitOn_eq_singleton ha, List.singleton_append,
      List.mem_cons] at h
    obtain rfl | h := h
    · exact ha
    · exact ih h

theorem mem_of_mem_splitOn {c : Char} (h : p ∈ s.splitOn sep) (hc : c ∈ p) : c ∈ s := by
  induction s using pieces_induction sep with
  | piece s hs =>
    rw [List.splitOn_eq_singleton hs, List.mem_singleton] at h
    exact h ▸ hc
  | step a b ha ih =>
    rw [List.splitOn_append_cons_self, List.splitOn_eq_singleton ha, List.singleton_append,
      List.mem_cons] at h
    rcases h with rfl | h
    · exact List.mem_append_left _ hc
    · exact List.mem_append_right _ (List.mem_cons_of_mem _ (ih h))

theorem exists_of_append_eq {front a b rest : List Char} (h : a ++ sep :: b = front ++ rest)
    (hfront : sep ∉ front) :
    ∃ x, a = front ++ x ∧ rest = x ++ sep :: b := by
  obtain ⟨x, rfl, hx⟩ | ⟨x, rfl, hx⟩ := List.append_eq_append_iff.mp h
  · cases x with
    | nil => exact ⟨[], by simp, by simpa using hx.symm⟩
    | cons c x =>
      cases hx
      simp at hfront
  · exact ⟨x, rfl, hx⟩

end Text

namespace RequestTemplate

variable {line : List Char} {slots : List (List Char × String)} {t : RequestTemplate}

/-! ## Reading -/

def readPair (piece : List Char) : List Char × Option (List Char) :=
  match Text.splitFirst '=' piece with
  | some (name, value) => (name, Percent.text? value)
  | none => (piece, none)

/-- The names of a query line with their values, as far as they have well-formed ones. -/
def readQuery (line : List Char) : List (List Char × Option (List Char)) :=
  if line.isEmpty then [] else (line.splitOn '&').map readPair

theorem readPair_encode {name : List Char} (hname : '=' ∉ name) (value : List Char) :
    readPair (name ++ '=' :: Place.query.encode value) = (name, some value) := by
  unfold readPair
  rw [Text.splitFirst_append hname]
  dsimp only
  rw [Place.encode_eq (by decide), Percent.text?_encode (by decide)]

def pieces (line : List Char) : List (List Char) := if line.isEmpty then [] else line.splitOn '&'

theorem pieces_intercalate {ps : List (List Char)} (hclear : ∀ p ∈ ps, '&' ∉ p ∧ p ≠ []) :
    pieces (['&'].intercalate ps) = ps := by
  cases ps with
  | nil => rfl
  | cons p ps =>
    have hne : (['&'].intercalate (p :: ps)).isEmpty = false := by
      have hp := (hclear p (by simp)).2
      cases ps <;> simp [hp]
    rw [pieces, hne]
    exact List.splitOn_intercalate '&' (fun q hq => (hclear q hq).1) (by simp)

theorem readQuery_intercalate {ps : List (List Char)} (hclear : ∀ p ∈ ps, '&' ∉ p ∧ p ≠ []) :
    readQuery (['&'].intercalate ps) = ps.map readPair := by
  have hread : ∀ line, readQuery line = (pieces line).map readPair := by
    intro line
    unfold readQuery pieces
    split <;> rfl
  rw [hread, pieces_intercalate hclear]

/-! ## Resolving -/

/-- The pieces of a resolved query: a name without values
stays, all others stand before each of their values. -/
theorem queryPieces_resolve (vars : Variables) (t : RequestTemplate) :
    (t.resolve vars).queryPieces = t.queries.flatMap fun p =>
      if p.2.isEmpty then [p.1.toList]
      else (p.2.flatMap fun v => v.expandValues vars .query t.format).map fun x =>
        p.1.toList ++ '=' :: x := by
  show (resolveParams vars .query t.format t.queries).flatMap _ = _
  induction t.queries with
  | nil => rfl
  | cons p params ih =>
    obtain ⟨name, values⟩ := p
    rw [resolveParams_cons, List.flatMap_cons, ← ih]
    cases hempty : values.isEmpty with
    | true => rfl
    | false =>
      -- without a value the name goes too, and there are no pieces on either side
      cases values.flatMap fun v => v.expandValues vars .query t.format with
      | nil => rfl
      | cons x sent => simp [Template.chars_literal]

/-! ## Pairs of a name and a placeholder -/

def queryPairs (line : List Char) : List (List Char) := (line.splitOn '&').filter (!·.isEmpty)

theorem not_mem_of_queryPairs {line pair : List Char} (h : pair ∈ queryPairs line) : '&' ∉ pair :=
  Text.not_mem_of_mem_splitOn (List.mem_filter.mp h).1

/-- In every pair of the query line a placeholder stands for the value. A slot is the name of a pair
with the name of its placeholder. -/
def Asks (line : List Char) (slots : List (List Char × String)) : Prop :=
  List.Forall₂ (fun pair slot => ∃ value, Text.splitFirst '=' pair = some (slot.1, value) ∧
    Template.parse value = ⟨[.expression slot.2]⟩) (queryPairs line) slots

theorem Asks.name_clear (hline : Asks line slots) :
    ∀ slot ∈ slots, '=' ∉ slot.1 ∧ '&' ∉ slot.1 := by
  have hclear : ∀ pair ∈ queryPairs line, '&' ∉ pair := fun _ => not_mem_of_queryPairs
  unfold Asks at hline
  generalize queryPairs line = pairs at hline hclear
  induction hline with
  | nil => simp
  | @cons pair slot pairs slots hpair _ ih =>
    obtain ⟨value, hsplit, -⟩ := hpair
    obtain ⟨hamp, hrest⟩ := List.forall_mem_cons.mp hclear
    rw [Text.splitFirst_eq hsplit] at hamp
    refine List.forall_mem_cons.mpr ⟨⟨Text.not_mem_of_splitFirst hsplit, fun hmem => ?_⟩, ih hrest⟩
    exact hamp (List.mem_append_left _ hmem)

def readParam (pair : List Char) : String × List Template :=
  match Text.splitFirst '=' pair with
  | some (name, value) => (String.ofList name, [Template.parse value])
  | none => (String.ofList pair, [])

theorem addQueryLine_queries (line : List Char) (t : RequestTemplate) :
    (t.addQueryLine line).queries =
      (queryPairs line).foldl (fun qs pair => qs.extend id (readParam pair).1 (readParam pair).2) t.queries := by
  unfold addQueryLine queryPairs readParam
  refine congrArg (List.foldl · t.queries _) (funext fun qs => funext fun pair => ?_)
  cases Text.splitFirst '=' pair <;> rfl

theorem queries_addQueryLine (hline : Asks line slots) (hnames : (slots.map Prod.fst).Nodup)
    (ht : t.queries = []) :
    (t.addQueryLine line).queries = slots.map fun slot => (String.ofList slot.1, [⟨[.expression slot.2]⟩]) := by
  rw [addQueryLine_queries, ht]
  -- each name is new to what was collected before it
  suffices h : ∀ qs : Multimap Template, (∀ slot ∈ slots, String.ofList slot.1 ∉ qs.map Prod.fst) →
      (queryPairs line).foldl (fun qs pair => qs.extend id (readParam pair).1 (readParam pair).2) qs =
        qs ++ slots.map fun slot => (String.ofList slot.1, [⟨[.expression slot.2]⟩]) from
    h [] (by simp)
  unfold Asks at hline
  generalize queryPairs line = pairs at hline
  induction hline with
  | nil => intro qs _; simp
  | @cons pair slot pairs slots hpair _ ih =>
    intro qs hqs
    obtain ⟨value, hsplit, hvalue⟩ := hpair
    obtain ⟨hnew, hrest⟩ := List.nodup_cons.mp hnames
    have hread : readParam pair = (String.ofList slot.1, [⟨[.expression slot.2]⟩]) := by
      rw [readParam, hsplit]
      exact congrArg (fun v => (String.ofList slot.1, [v])) hvalue
    have hextend : qs.extend id (readParam pair).1 (readParam pair).2 =
        qs ++ [(String.ofList slot.1, [⟨[.expression slot.2]⟩])] := by
      rw [hread, Multimap.extend_of_not_mem (by simpa using hqs slot (by simp))]
    rw [List.foldl_cons, hextend, ih hrest, List.map_cons, List.append_assoc, List.singleton_append]
    intro slot' hslot' hmem
    rw [List.map_append, List.mem_append] at hmem
    obtain hmem | hmem := hmem
    · exact hqs slot' (by simp [hslot']) hmem
    · have hsame : slot'.1 = slot.1 := String.ofList_injective (by simpa using hmem)
      exact hnew (hsame ▸ List.mem_map_of_mem hslot')

/-! ## Where a query line is cut off -/

theorem splitBase_append {path : List Char} (hpath : '?' ∉ path) (line : List Char) :
    ∃ base rest, splitBase (path ++ '?' :: line) = (base, rest ++ '?' :: line) ∧ '?' ∉ rest := by
  unfold splitBase
  cases habsolute : absolute? (path ++ '?' :: line) with
  | none => exact ⟨none, path, rfl, hpath⟩
  | some found =>
    obtain ⟨scheme, r⟩ := found
    obtain ⟨heq, hscheme⟩ := absolute?_eq habsolute
    have hquery : '?' ∉ scheme := by obtain rfl | rfl := hscheme <;> decide
    obtain ⟨r', rfl, rfl⟩ := Text.exists_of_append_eq heq hquery
    refine ⟨_, r'.dropWhile fun c => c != '/' && c != '?', rfl |>.trans (Prod.ext rfl ?_),
      fun hmem => ?_⟩
    · dsimp only
      rw [List.dropWhile_append]
      split
      · rename_i hall
        rw [List.isEmpty_iff.mp hall]
        rfl
      · rfl
    · exact hpath (List.mem_append_right _ ((List.dropWhile_sublist _).mem hmem))

theorem splitBase_eq (u : List Char) :
    (splitBase u).1.getD [] ++ (splitBase u).2 = u ∧ '?' ∉ (splitBase u).1.getD [] := by
  unfold splitBase
  cases habsolute : absolute? u with
  | none => exact ⟨rfl, List.not_mem_nil⟩
  | some found =>
    obtain ⟨scheme, r⟩ := found
    obtain ⟨rfl, hscheme⟩ := absolute?_eq habsolute
    have hquery : '?' ∉ scheme := by obtain rfl | rfl := hscheme <;> decide
    constructor
    · simp [List.takeWhile_append_dropWhile]
    · intro hmem
      rcases List.mem_append.mp hmem with h | h
      · exact hquery h
      · have hkept := List.mem_takeWhile_imp h
        simp at hkept

theorem splitQuery_fst (u : List Char) : (splitQuery u).1 = u.takeWhile (· != '?') := by
  unfold splitQuery
  cases h : Text.splitFirst '?' u with
  | none => exact (Text.takeWhile_ne_of_not_mem (Text.not_mem_of_splitFirst_none h)).symm
  | some q =>
    obtain ⟨a, b⟩ := q
    rw [Text.splitFirst_eq h, Text.takeWhile_ne_append (Text.not_mem_of_splitFirst h)]

theorem splitQuery_append_left {a : List Char} (ha : '?' ∉ a) (b : List Char) :
    splitQuery (a ++ b) = (a ++ (splitQuery b).1, (splitQuery b).2) := by
  unfold splitQuery
  rw [Text.splitFirst_append_left ha]
  cases Text.splitFirst '?' b <;> rfl

theorem setUri_queries (u : List Char) (t : RequestTemplate) :
    (t.setUri u).queries = (splitQuery (splitBase u).2).2.elim t.queries fun line =>
      (t.addQueryLine line).queries := by
  have hempty : Template.empty.isEmpty = true := rfl
  simp only [setUri, appendUri, hempty, if_true]
  cases (splitQuery (splitBase u).2).2 <;> rfl

theorem setUri_target (u : List Char) : (empty.setUri u).target = (splitBase u).1 := by
  have hempty : Template.empty.isEmpty = true := rfl
  simp only [setUri, appendUri, hempty, if_true]
  cases (splitBase u).1 <;> cases (splitQuery (splitBase u).2).2 <;> rfl

theorem setUri_uri (u : List Char) (t : RequestTemplate) :
    (t.setUri u).uri = Template.parse (splitQuery (splitBase u).2).1 := by
  have hempty : Template.empty.isEmpty = true := rfl
  simp only [setUri, appendUri, hempty, if_true]
  cases (splitQuery (splitBase u).2).2 <;> rfl

theorem setUri_format (u : List Char) (t : RequestTemplate) : (t.setUri u).format = t.format := by
  unfold setUri appendUri
  dsimp only
  split <;> rfl

/-! ## Values that are read back -/

/-- A query line whose values are placeholders, each under a name of its
own, is read after the resolution as the values that the placeholders
stand for, in the order of the line, and nothing besides. -/
theorem readQuery_resolve {path : List Char} (hpath : '?' ∉ path) (hline : Asks line slots)
    (hnames : (slots.map Prod.fst).Nodup) (ht : t.queries = []) (hformat : t.format = .exploded)
    (vars : Variables) :
    readQuery ((t.setUri (path ++ '?' :: line)).resolve vars).queryLine =
      slots.flatMap fun slot => (vars.texts slot.2).map fun x => (slot.1, some x.toList) := by
  have hqueries : (t.setUri (path ++ '?' :: line)).queries = (t.addQueryLine line).queries := by
    obtain ⟨base, rest, hbase, hrest⟩ := splitBase_append hpath line
    rw [setUri_queries, hbase, splitQuery, Text.splitFirst_append hrest]
    rfl
  have hpieces : ((t.setUri (path ++ '?' :: line)).resolve vars).queryPieces =
    slots.flatMap fun slot =>
      (vars.texts slot.2).map fun x => slot.1 ++ '=' :: Place.query.encode x.toList := by
    rw [queryPieces_resolve, hqueries, setUri_format, hformat, queries_addQueryLine hline hnames ht,
      List.flatMap_map]
    simp [Template.expandValues_placeholder, Function.comp_def]
  have hslot := hline.name_clear
  have hclear : ∀ p ∈ ((t.setUri (path ++ '?' :: line)).resolve vars).queryPieces,
      '&' ∉ p ∧ p ≠ [] := by
    intro p hp
    rw [hpieces] at hp
    obtain ⟨slot, hmem, hp⟩ := List.mem_flatMap.mp hp
    obtain ⟨x, -, rfl⟩ := List.mem_map.mp hp
    refine ⟨fun h => ?_, by simp⟩
    rw [List.mem_append, List.mem_cons] at h
    obtain h | h | h := h
    · exact (hslot slot hmem).2 h
    · cases h
    · exact (Place.not_mem_encode (by decide) (by decide) _ : '&' ∉ Place.query.encode _) h
  rw [queryLine, readQuery_intercalate hclear, hpieces, List.map_flatMap]
  refine congrArg List.flatten (List.map_congr_left fun slot hmem => ?_)
  rw [List.map_map]
  exact List.map_congr_left fun x _ => readPair_encode (hslot slot hmem).1 _

/-- A text with every delimiter in it, a list and an undefined name. -/
theorem readQuery_resolve_search :
    let line := "q={q}&tag={tags:[a-z]+}&&w={gone}".toList
    let slots := [("q".toList, "q"), ("tag".toList, "tags"), ("w".toList, "gone")]
    let vars : Variables := fun name =>
      if name = "q" then some (.one "1&x=%26 é+") else if name = "tags" then some (.many ["a=b", ""]) else none
    '?' ∉ "/search".toList ∧ Asks line slots ∧ (slots.map Prod.fst).Nodup ∧ empty.queries = [] ∧
      empty.format = .exploded ∧
      readQuery ((empty.setUri ("/search".toList ++ '?' :: line)).resolve vars).queryLine =
        [("q".toList, some "1&x=%26 é+".toList), ("tag".toList, some "a=b".toList), ("tag".toList, some [])] := by
  intro line slots vars
  have hline : Asks line slots := by
    have hpairs : queryPairs line =
        ["q={q}".toList, "tag={tags:[a-z]+}".toList, "w={gone}".toList] := by decide
    unfold Asks
    rw [hpairs]
    exact .cons ⟨"{q}".toList, rfl, by decide +kernel⟩ (.cons ⟨"{tags:[a-z]+}".toList, rfl, by decide +kernel⟩
      (.cons ⟨"{gone}".toList, rfl, by decide +kernel⟩ .nil))
  refine ⟨by decide, hline, by decide, rfl, rfl, ?_⟩
  exact (readQuery_resolve (by decide) hline (by decide) rfl rfl vars).trans (by decide)

end RequestTemplate

end DeclarativeHttp
