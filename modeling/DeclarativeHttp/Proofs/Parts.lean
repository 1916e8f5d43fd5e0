import DeclarativeHttp.Proofs.Roles
import Mathlib.Data.List.Basic

/-!
# The parts of parameters

Parameters are placed one after the other, each by what the metadata hold so far. In the end,
though, the metadata say no more than what all attributes and types say together (`Reflects`), and
whether there is an end is a matter of all parameters together as well: their parts must not exclude
each other (`Compatible`, `placed_iff`).
-/

namespace DeclarativeHttp

/-! ## Values at indexes -/

namespace IndexMap

variable {α : Type} {i j : Nat} {f : Option α → α} {m : IndexMap α}

def Ordered (m : IndexMap α) : Prop := (m.map Prod.fst).Pairwise (· < ·)

theorem mem_indexes_alter {k : Nat} (h : k ∈ (m.alter i f).map Prod.fst) :
    k = i ∨ k ∈ m.map Prod.fst := by
  obtain ⟨⟨_, a⟩, hmem, rfl⟩ := List.mem_map.mp h
  obtain hmem | ⟨rfl, -⟩ := mem_alter hmem
  · exact .inr (List.mem_map_of_mem hmem)
  · exact .inl rfl

theorem Ordered.alter (h : m.Ordered) (i : Nat) (f : Option α → α) : (m.alter i f).Ordered := by
  induction m with
  | nil => exact List.pairwise_singleton _ _
  | cons q m ih =>
    obtain ⟨l, b⟩ := q
    obtain ⟨hl, hrest⟩ := List.pairwise_cons.mp h
    rw [IndexMap.alter]
    split
    · rename_i hil
      exact List.pairwise_cons.mpr ⟨hil ▸ hl, hrest⟩
    · split
      · rename_i hlt
        refine List.pairwise_cons.mpr ⟨fun k hk => ?_, h⟩
        obtain rfl | hk := List.mem_cons.mp hk
        · exact hlt
        · exact Nat.lt_trans hlt (hl k hk)
      · refine List.pairwise_cons.mpr ⟨fun k hk => ?_, ih hrest⟩
        obtain rfl | hk := mem_indexes_alter hk
        · omega
        · exact hl k hk

theorem get?_cons (i l : Nat) (b : α) (m : IndexMap α) :
    get? i ((l, b) :: m) = if i = l then some b else get? i m := by
  rw [get?, List.lookup_cons]
  by_cases h : i = l
  · simp [h]
  · simp [h, beq_eq_false_iff_ne.mpr h, get?]

theorem get?_eq_none_of_lt (h : ∀ k ∈ m.map Prod.fst, i < k) : get? i m = none := by
  induction m with
  | nil => rfl
  | cons q m ih =>
    obtain ⟨hq, hrest⟩ := List.forall_mem_cons.mp h
    rw [get?_cons, if_neg (Nat.ne_of_lt hq), ih hrest]

theorem get?_alter (h : m.Ordered) (i j : Nat) (f : Option α → α) :
    get? j (m.alter i f) = if j = i then some (f (get? i m)) else get? j m := by
  induction m with
  | nil => rw [IndexMap.alter, get?_cons]; rfl
  | cons q m ih =>
    obtain ⟨l, b⟩ := q
    obtain ⟨hl, hrest⟩ := List.pairwise_cons.mp h
    rw [IndexMap.alter, get?_cons, get?_cons]
    by_cases hil : i = l
    · subst hil
      rw [if_pos rfl, if_pos rfl, get?_cons]
      split <;> rfl
    · rw [if_neg hil, if_neg hil]
      by_cases hlt : i < l
      · rw [if_pos hlt, get?_cons, get?_cons, get?_eq_none_of_lt fun k hk => Nat.lt_trans hlt (hl k hk)]
      · rw [if_neg hlt, get?_cons, ih hrest]
        by_cases hj : j = l
        · rw [if_pos hj, if_pos hj, if_neg (by omega)]
        · rw [if_neg hj, if_neg hj]

end IndexMap

/-! ## What attributes and types ask for -/

namespace Attribute

def paramName? : Attribute → Option String
  | param name _ => some name
  | _ => none

def queryFlag? : Attribute → Option Bool
  | queryMap encoded => some encoded
  | _ => none

def isHeaderMap : Attribute → Bool
  | headerMap => true
  | _ => false

end Attribute

namespace Parameter

def bodyTypes (p : Parameter) : List TypeRef :=
  if p.type.isUri || p.type.isOptions || p.isClaimed then [] else [p.type]

def targetTypes (p : Parameter) : List TypeRef := if p.type.isUri then [p.type] else []

/-- What the parameters have to say, each from its place; the first one stands at `k`. -/
def placed {α : Type} (f : Parameter → List α) (k : Nat) (ps : List Parameter) : List (Nat × α) :=
  (ps.zipIdx k).flatMap fun q => (f q.1).map (q.2, ·)

theorem placed_cons {α : Type} (f : Parameter → List α) (k : Nat) (p : Parameter)
    (ps : List Parameter) :
    placed f k (p :: ps) = (f p).map (k, ·) ++ placed f (k + 1) ps := rfl

end Parameter

/-! ## What all attributes say -/

section
variable (as as' : List (Nat × Attribute)) (k j : Nat) (a : Attribute)

def givenNames : List String := as.filterMap fun q => q.2.paramName?

def namesAt : List String := as.filterMap fun q => if q.1 = k then q.2.paramName? else none

def queryMaps : List (Nat × Bool) := as.filterMap fun q => q.2.queryFlag?.map (q.1, ·)

def headerMaps : List Nat := as.filterMap fun q => if q.2.isHeaderMap then some q.1 else none

@[simp] theorem givenNames_append : givenNames (as ++ as') = givenNames as ++ givenNames as' :=
  List.filterMap_append

@[simp] theorem namesAt_append : namesAt (as ++ as') k = namesAt as k ++ namesAt as' k :=
  List.filterMap_append

@[simp] theorem queryMaps_append : queryMaps (as ++ as') = queryMaps as ++ queryMaps as' :=
  List.filterMap_append

@[simp] theorem headerMaps_append : headerMaps (as ++ as') = headerMaps as ++ headerMaps as' :=
  List.filterMap_append

@[simp] theorem givenNames_singleton : givenNames [(k, a)] = a.paramName?.toList := by
  cases h : a.paramName? <;> simp [givenNames, h]

@[simp] theorem namesAt_singleton :
    namesAt [(k, a)] j = if k = j then a.paramName?.toList else [] := by
  cases h : a.paramName? <;> by_cases hj : k = j <;> simp [namesAt, h, hj]

@[simp] theorem queryMaps_singleton : queryMaps [(k, a)] = (a.queryFlag?.map (k, ·)).toList := by
  cases h : a.queryFlag? <;> simp [queryMaps, h]

@[simp] theorem headerMaps_singleton : headerMaps [(k, a)] = if a.isHeaderMap then [k] else [] := by
  cases h : a.isHeaderMap <;> simp [headerMaps, h]

end

/-- The names of a parameter as they are kept, each once; without any there is no entry. -/
def collect (names : List String) : Option (List String) :=
  names.foldl (fun found name => some (Metadata.addOnce name (found.getD []))) none

theorem collect_append (names : List String) (name : String) :
    collect (names ++ [name]) = some (Metadata.addOnce name ((collect names).getD [])) := by
  rw [collect, List.foldl_append]
  rfl

structure Metadata.Named (t : RequestTemplate) (as : List (Nat × Attribute)) (m : Metadata) :
    Prop where
  ordered : m.names.Ordered
  names : ∀ k, m.names.get? k = collect (namesAt as k)
  written : ∀ n ∈ givenNames as, (Text.trim n.toList).isEmpty = false
  formParams : ∀ n, n ∈ m.formParams ↔ n ∈ givenNames as ∧ t.hasRequestPlaceholder n = false

/-- The metadata say what the attributes say, and which parameters are the body and the target. -/
structure Metadata.Reflects (t : RequestTemplate) (as : List (Nat × Attribute))
    (bodies targets : List (Nat × TypeRef)) (m : Metadata) :
    Prop extends Metadata.Named t as m where
  template : m.template = t
  queryMap : (queryMaps as).map Prod.fst = m.queryMapIndex.toList
  encoded : m.queryMapEncoded = (queryMaps as).any Prod.snd
  headerMap : headerMaps as = m.headerMapIndex.toList
  body : bodies.map Prod.fst = m.bodyIndex.toList
  bodyType : bodies.map Prod.snd = m.bodyType.toList
  url : m.urlIndex = (targets.map Prod.fst).getLast?

structure Clear (as : List (Nat × Attribute)) : Prop where
  written : ∀ n ∈ givenNames as, (Text.trim n.toList).isEmpty = false
  queryMaps : (queryMaps as).length ≤ 1
  headerMaps : (headerMaps as).length ≤ 1

/-- The parts that are asked for do not exclude each other:
there is one body at most, and none beside form parameters. -/
structure Compatible (t : RequestTemplate) (as : List (Nat × Attribute))
    (bodies : List (Nat × TypeRef)) : Prop
    extends Clear as where
  single : bodies.length ≤ 1
  exclusive : bodies = [] ∨ ∀ n ∈ givenNames as, t.hasRequestPlaceholder n = true

namespace Metadata.Named

variable {t : RequestTemplate} {as : List (Nat × Attribute)} {m m' : Metadata}
  {a : Attribute} {k : Nat}

theorem congr (h : m.Named t as) (hnames : m'.names = m.names)
    (hform : m'.formParams = m.formParams) : m'.Named t as :=
  ⟨hnames ▸ h.ordered, hnames ▸ h.names, h.written, hform ▸ h.formParams⟩

theorem snoc (h : m.Named t as) (ha : a.paramName? = none) (k : Nat) :
    m.Named t (as ++ [(k, a)]) where
  ordered := h.ordered
  names j := by simpa [ha] using h.names j
  written := by simpa [ha] using h.written
  formParams n := by simpa [ha] using h.formParams n

theorem snoc_param (h : m.Named t as) {name : String} (expander : Option Expander) (k : Nat)
    (hwritten : (Text.trim name.toList).isEmpty = false)
    (hnames : m'.names = m.names.alter k fun names => addOnce name (names.getD []))
    (hform : m'.formParams = if t.hasRequestPlaceholder name then m.formParams else addOnce name m.formParams) :
    m'.Named t (as ++ [(k, .param name expander)]) where
  ordered := hnames ▸ h.ordered.alter k _
  names j := by
    rw [hnames, IndexMap.get?_alter h.ordered, h.names, h.names, namesAt_append, namesAt_singleton]
    by_cases hj : j = k
    · rw [if_pos hj, if_pos hj.symm, hj]
      exact (collect_append _ name).symm
    · rw [if_neg hj, if_neg (Ne.symm hj), List.append_nil]
  written := by
    rw [givenNames_append, List.forall_mem_append]
    exact ⟨h.written, by simpa [Attribute.paramName?] using hwritten⟩
  formParams n := by
    have hgiven : n ∈ givenNames (as ++ [(k, .param name expander)]) ↔
        n ∈ givenNames as ∨ n = name := by
      simp [Attribute.paramName?]
    rw [hgiven, or_and_right, ← h.formParams n, hform]
    split
    · rename_i hplaceholder
      exact ⟨.inl, fun hn => hn.elim id fun hn => by rw [hn.1, hplaceholder] at hn; cases hn.2⟩
    · rename_i hplaceholder
      rw [mem_addOnce]
      exact or_congr_right ⟨fun hn => ⟨hn, by rw [hn]; simpa using hplaceholder⟩, And.left⟩

end Metadata.Named

namespace Metadata.Reflects

open DefaultDialect (dialect table parameterRule parameterName Places)

variable {t : RequestTemplate} {as : List (Nat × Attribute)} {bodies targets : List (Nat × TypeRef)}
  {m m' : Metadata} {p : Parameter} {ps : List Parameter} {k : Nat}

/-! ## Attributes -/

theorem warn (h : m.Reflects t as bodies targets) (text : String) :
    (m.warn text).Reflects t as bodies targets :=
  ⟨h.congr rfl rfl, h.template, h.queryMap, h.encoded, h.headerMap, h.body, h.bodyType, h.url⟩

theorem silent (h : m.Reflects t as bodies targets) {a : Attribute}
    (ha : parameterRule a k = none) :
    m.Reflects t (as ++ [(k, a)]) bodies targets := by
  have hsilent : a.paramName? = none ∧ a.queryFlag? = none ∧ a.isHeaderMap = false := by
    cases a with
    | param _ _ => cases ha
    | queryMap _ => cases ha
    | headerMap => cases ha
    | _ => exact ⟨rfl, rfl, rfl⟩
  obtain ⟨hname, hflag, hheader⟩ := hsilent
  refine ⟨h.snoc hname k, h.template, ?_, ?_, ?_, h.body, h.bodyType, h.url⟩
  · simpa [hflag] using h.queryMap
  · simpa [hflag] using h.encoded
  · simpa [hheader] using h.headerMap

theorem addName {name : String} {expander : Option Expander} (h : m.Reflects t as bodies targets)
    (hm : parameterName name expander k m = .ok m') :
    m'.Reflects t (as ++ [(k, .param name expander)]) bodies targets := by
  have hwritten : (Text.trim name.toList).isEmpty = false := by
    unfold parameterName at hm
    split at hm
    · cases hm
    · rename_i hblank
      simpa using hblank
  rw [DefaultDialect.parameterName_ok hm]
  refine ⟨h.snoc_param expander k hwritten rfl (by rw [h.template]), h.template, ?_, ?_, ?_, h.body,
    h.bodyType, h.url⟩
  · simpa [Attribute.queryFlag?] using h.queryMap
  · simpa [Attribute.queryFlag?] using h.encoded
  · simpa [Attribute.isHeaderMap] using h.headerMap

theorem setQueryMap {encoded : Bool} (h : m.Reflects t as bodies targets)
    (hm : DefaultDialect.queryMap encoded k m = .ok m') :
    m'.Reflects t (as ++ [(k, .queryMap encoded)]) bodies targets := by
  unfold DefaultDialect.queryMap at hm
  split at hm <;> cases hm
  rename_i hfree
  have hnone : queryMaps as = [] := by
    have hlist := h.queryMap
    rw [show m.queryMapIndex = none by simpa using hfree] at hlist
    exact List.map_eq_nil_iff.mp hlist
  show Reflects t _ _ _ { m with queryMapIndex := some k, queryMapEncoded := encoded }
  refine ⟨(h.snoc rfl k).congr rfl rfl, h.template, ?_, ?_, ?_, h.body, h.bodyType, h.url⟩
  · simp [hnone, Attribute.queryFlag?]
  · simp [hnone, Attribute.queryFlag?]
  · simpa [Attribute.isHeaderMap] using h.headerMap

theorem setHeaderMap (h : m.Reflects t as bodies targets)
    (hm : DefaultDialect.headerMap k m = .ok m') :
    m'.Reflects t (as ++ [(k, .headerMap)]) bodies targets := by
  unfold DefaultDialect.headerMap at hm
  split at hm <;> cases hm
  rename_i hfree
  have hnone : headerMaps as = [] := by
    rw [h.headerMap, show m.headerMapIndex = none by simpa using hfree]
    rfl
  show Reflects t _ _ _ { m with headerMapIndex := some k }
  refine ⟨(h.snoc rfl k).congr rfl rfl, h.template, ?_, ?_, ?_, h.body, h.bodyType, h.url⟩
  · simpa [Attribute.queryFlag?] using h.queryMap
  · simpa [Attribute.queryFlag?] using h.encoded
  · simp [hnone, Attribute.isHeaderMap]

theorem obey {a : Attribute} {f : Step} (h : m.Reflects t as bodies targets)
    (hf : parameterRule a k = some f) (hm : f m = .ok m') :
    m'.Reflects t (as ++ [(k, a)]) bodies targets := by
  cases a with
  | param name expander => cases hf; exact h.addName hm
  | queryMap encoded => cases hf; exact h.setQueryMap hm
  | headerMap => cases hf; exact h.setHeaderMap hm
  | requestLine _ _ _ => cases hf
  | headers _ => cases hf
  | body _ => cases hf
  | other _ _ => cases hf

theorem run {attributes : List Attribute} (h : m.Reflects t as bodies targets)
    (hm : RuleTable.run (attributes.filterMap fun a => parameterRule a k) m = .ok m') :
    m'.Reflects t (as ++ attributes.map (k, ·)) bodies targets := by
  induction attributes generalizing as m with
  | nil => cases hm; simpa using h
  | cons a attributes ih =>
    have hsplit : as ++ (a :: attributes).map (k, ·) =
        (as ++ [(k, a)]) ++ attributes.map (k, ·) := by simp
    rw [List.filterMap_cons] at hm
    rw [hsplit]
    cases hf : parameterRule a k with
    | none =>
      rw [hf] at hm
      exact ih (h.silent hf) hm
    | some f =>
      rw [hf] at hm
      obtain ⟨m₁, hm₁, hrest⟩ := Error.bind_eq_ok hm
      exact ih (h.obey hf hm₁) hrest

theorem exists_obey {a : Attribute} {f : Step} {rest : List (Nat × Attribute)}
    (h : m.Reflects t as bodies targets) (hf : parameterRule a k = some f)
    (hclear : Clear (as ++ [(k, a)] ++ rest)) :
    ∃ m', f m = .ok m' := by
  cases a with
  | param name expander =>
    cases hf
    have hwritten : (Text.trim name.toList).isEmpty = false :=
      hclear.written name (by simp [givenNames, Attribute.paramName?])
    exact ⟨_, by rw [parameterName, if_neg (by simp [hwritten])]⟩
  | queryMap encoded =>
    cases hf
    have hfree : m.queryMapIndex = none := by
      have hone := hclear.queryMaps
      have hlist := congrArg List.length h.queryMap
      simp only [queryMaps_append, queryMaps_singleton, Attribute.queryFlag?, Option.map_some,
        Option.toList_some, List.length_append, List.length_map,
        List.length_singleton] at hone hlist
      exact Option.toList_eq_nil_iff.mp (List.eq_nil_of_length_eq_zero (by omega))
    exact ⟨_, by rw [DefaultDialect.queryMap, if_neg (by simp [hfree])]⟩
  | headerMap =>
    cases hf
    have hfree : m.headerMapIndex = none := by
      have hone := hclear.headerMaps
      have hlist := congrArg List.length h.headerMap
      simp only [headerMaps_append, headerMaps_singleton, Attribute.isHeaderMap, if_true,
        List.length_append, List.length_singleton] at hone hlist
      exact Option.toList_eq_nil_iff.mp (List.eq_nil_of_length_eq_zero (by omega))
    exact ⟨_, by rw [DefaultDialect.headerMap, if_neg (by simp [hfree])]⟩
  | requestLine _ _ _ => cases hf
  | headers _ => cases hf
  | body _ => cases hf
  | other _ _ => cases hf

theorem exists_run {attributes : List Attribute} {rest : List (Nat × Attribute)}
    (h : m.Reflects t as bodies targets) (hclear : Clear (as ++ attributes.map (k, ·) ++ rest)) :
    ∃ m', RuleTable.run (attributes.filterMap fun a => parameterRule a k) m = .ok m' := by
  induction attributes generalizing as m with
  | nil => exact ⟨m, rfl⟩
  | cons a attributes ih =>
    have hsplit : as ++ (a :: attributes).map (k, ·) ++ rest =
        (as ++ [(k, a)]) ++ attributes.map (k, ·) ++ rest := by simp
    rw [hsplit] at hclear
    rw [List.filterMap_cons]
    cases hf : parameterRule a k with
    | none => exact ih (h.silent hf) hclear
    | some f =>
      obtain ⟨m₁, hm₁⟩ := h.exists_obey hf (List.append_assoc _ _ _ ▸ hclear)
      obtain ⟨m₂, hm₂⟩ := ih (h.obey hf hm₁) hclear
      exact ⟨m₂, by dsimp only; rw [RuleTable.run, hm₁]; exact hm₂⟩

/-! ## Places -/

theorem place (h : m.Reflects t as bodies targets) (hm : Places p k m m')
    (hclaimed : m.isProcessed k = p.isClaimed) :
    m'.Reflects t as (bodies ++ p.bodyTypes.map (k, ·)) (targets ++ p.targetTypes.map (k, ·)) := by
  cases hm with
  | target isUri =>
    show Reflects t _ _ _ { m with urlIndex := some k }
    have hbody : p.bodyTypes = [] := by simp [Parameter.bodyTypes, isUri]
    rw [hbody, List.map_nil, List.append_nil]
    exact ⟨h.congr rfl rfl, h.template, h.queryMap, h.encoded, h.headerMap, h.body, h.bodyType,
      by simp [Parameter.targetTypes, isUri]⟩
  | kept notUri used =>
    have hbody : p.bodyTypes = [] := by
      obtain hoptions | hprocessed := used
      · simp [Parameter.bodyTypes, hoptions]
      · simp [Parameter.bodyTypes, ← hclaimed, hprocessed]
    have htarget : p.targetTypes = [] := by simp [Parameter.targetTypes, notUri]
    rw [hbody, htarget, List.map_nil, List.append_nil, List.append_nil]
    exact h
  | body notUri notOptions unused _ free =>
    show Reflects t _ _ _ { m with bodyIndex := some k, bodyType := some p.type }
    have hbody : p.bodyTypes = [p.type] := by
      simp [Parameter.bodyTypes, notUri, notOptions, ← hclaimed, unused]
    have htarget : p.targetTypes = [] := by simp [Parameter.targetTypes, notUri]
    have hnone : bodies = [] := by
      have hlist := h.body
      rw [free] at hlist
      exact List.map_eq_nil_iff.mp hlist
    rw [hbody, htarget, hnone, List.map_nil, List.append_nil]
    exact ⟨h.congr rfl rfl, h.template, h.queryMap, h.encoded, h.headerMap, rfl, rfl, h.url⟩

theorem formParams_eq_nil (h : m.Reflects t as bodies targets) {rest : List (Nat × Attribute)}
    {more : List (Nat × TypeRef)} (hc : Compatible t (as ++ rest) more) (hmore : more ≠ []) :
    m.formParams = [] := by
  refine List.eq_nil_iff_forall_not_mem.mpr fun n hn => ?_
  obtain ⟨hgiven, hmissing⟩ := (h.formParams n).mp hn
  have hfound := hc.exclusive.resolve_left hmore n (by rw [givenNames_append]; exact List.mem_append_left _ hgiven)
  rw [hmissing] at hfound
  cases hfound

theorem check (h : m.Reflects t as bodies targets) {rest : List (Nat × Attribute)}
    {more : List (Nat × TypeRef)} (hc : Compatible t (as ++ rest) (bodies ++ more)) :
    Dialect.checkBodyAndForm m = .ok () := by
  rw [Dialect.checkBodyAndForm, if_neg]
  intro hboth
  rw [Bool.and_eq_true, Option.isSome_iff_exists] at hboth
  obtain ⟨⟨k, hbody⟩, hform⟩ := hboth
  have hbodies : bodies ++ more ≠ [] := fun hnil => by
    have hlist := h.body
    rw [(List.append_eq_nil_iff.mp hnil).1, hbody] at hlist
    cases hlist
  rw [h.formParams_eq_nil hc hbodies] at hform
  cases hform

theorem compatible (h : m.Reflects t as bodies targets)
    (hcheck : Dialect.checkBodyAndForm m = .ok ()) :
    Compatible t as bodies where
  written := h.written
  queryMaps := by
    rw [← List.length_map Prod.fst, h.queryMap]
    exact m.queryMapIndex.length_toList_le
  headerMaps := by
    rw [h.headerMap]
    exact m.headerMapIndex.length_toList_le
  single := by
    rw [← List.length_map Prod.fst, h.body]
    exact m.bodyIndex.length_toList_le
  exclusive := by
    unfold Dialect.checkBodyAndForm at hcheck
    split at hcheck
    · cases hcheck
    · rename_i hexclusive
      cases hbody : m.bodyIndex with
      | none =>
        have hlist := h.body
        rw [hbody] at hlist
        exact .inl (List.map_eq_nil_iff.mp hlist)
      | some k =>
        have hform : m.formParams = [] := by simpa [hbody] using hexclusive
        refine .inr fun n hn => ?_
        by_contra hmissing
        have hmem := (h.formParams n).mpr ⟨hn, by simpa using hmissing⟩
        rw [hform] at hmem
        cases hmem

end Metadata.Reflects

/-! ## All parameters -/

structure Metadata.FreshFrom (k : Nat) (m : Metadata) : Prop where
  indexed : m.Indexed k
  ignoredParams : m.ignoredParams = []

namespace DefaultDialect

open Parameter (placed placed_cons bodyTypes targetTypes)

variable {t : RequestTemplate} {as : List (Nat × Attribute)} {bodies targets : List (Nat × TypeRef)}
  {m m' : Metadata} {p : Parameter} {ps : List Parameter} {k : Nat}

theorem freshFrom_succ (hm : m.FreshFrom k) (h : dialect.placeParameter p k m = .ok m') :
    m'.FreshFrom (k + 1) := by
  refine placeParameter_keeps h ⟨?_, hm.ignoredParams⟩ fun n n' hchange hn =>
    ⟨hchange.indexed k.lt_succ_self hn.indexed, hchange.ignoredParams.trans hn.ignoredParams⟩
  have hlater : ∀ {j}, j < k → j < k + 1 := Nat.lt_succ_of_lt
  exact ⟨fun j ns hj => hlater (hm.indexed.names j ns hj), fun j hj => hlater (hm.indexed.body j hj),
    hm.indexed.bodyType, fun j hj => hlater (hm.indexed.url j hj),
    fun j hj => hlater (hm.indexed.queryMap j hj),
    fun j hj => hlater (hm.indexed.headerMap j hj)⟩

theorem reflects_of_read (h : m.Reflects t as bodies targets)
    (hread : dialect.readParameter p k m = .ok (false, m')) :
    m'.Reflects t (as ++ p.attributes.map (k, ·)) bodies targets := by
  obtain ⟨-, m₁, hrun, hend⟩ := readParameter_run hread
  rw [parameterSteps_eq] at hrun
  obtain rfl | ⟨text, rfl⟩ := hend
  · exact h.run hrun
  · exact (h.run hrun).warn text

theorem reflects_of_place (h : m.Reflects t as bodies targets) (hm : m.FreshFrom k)
    (hplace : dialect.placeParameter p k m = .ok m') :
    m'.Reflects t (as ++ p.attributes.map (k, ·)) (bodies ++ (bodyTypes p).map (k, ·))
      (targets ++ (targetTypes p).map (k, ·)) := by
  obtain ⟨m₁, hread, hplaces⟩ := placeParameter_ok hplace
  have hunused := hm.indexed.isProcessed hm.ignoredParams
  exact (reflects_of_read h hread).place hplaces (isProcessed_of_read hread hunused)

theorem reflects_of_placed (h : m.Reflects t as bodies targets) (hm : m.FreshFrom k)
    (hplaced : dialect.placeParameters k ps m = .ok m') :
    m'.Reflects t (as ++ placed Parameter.attributes k ps) (bodies ++ placed bodyTypes k ps)
      (targets ++ placed targetTypes k ps) := by
  induction ps generalizing k m as bodies targets with
  | nil =>
    cases hplaced
    simpa [placed] using h
  | cons p ps ih =>
    obtain ⟨m₁, hm₁, hrest⟩ := Error.bind_eq_ok hplaced
    -- what is reflected grows by one place, and the places behind it are still fresh
    simp only [placed_cons, ← List.append_assoc]
    exact ih (reflects_of_place h hm hm₁) (freshFrom_succ hm hm₁) hrest

theorem exists_place {rest : List (Nat × Attribute)} {more : List (Nat × TypeRef)}
    (h : m.Reflects t as bodies targets) (hm : m.FreshFrom k)
    (hc : Compatible t (as ++ p.attributes.map (k, ·) ++ rest) (bodies ++ (bodyTypes p).map (k, ·) ++ more)) :
    ∃ m', dialect.placeParameter p k m = .ok m' := by
  obtain ⟨m₁, hrun⟩ := h.exists_run hc.toClear
  obtain ⟨finish, -, heq⟩ := readParameter_eq p k
  have hread : dialect.readParameter p k m = .ok (false, finish m₁) := by
    rw [heq, parameterSteps_eq, hrun]
    rfl
  have hreflects := reflects_of_read h hread
  have hclaimed := isProcessed_of_read hread (hm.indexed.isProcessed hm.ignoredParams)
  generalize finish m₁ = n at hread hreflects hclaimed
  have hplace : dialect.placeParameter p k m = Dialect.assignParameter false p k n := by
    rw [Dialect.placeParameter, hread]
    rfl
  rw [hplace, Dialect.assignParameter]
  by_cases huri : p.type.isUri = true
  · exact ⟨_, if_pos huri⟩
  rw [if_neg huri, Bool.false_or]
  by_cases hoptions : p.type.isOptions = true
  · exact ⟨_, if_pos hoptions⟩
  rw [if_neg hoptions]
  by_cases hused : n.isProcessed k = true
  · -- what is compatible with all that follows is so with what stands there now
    rw [List.append_assoc bodies] at hc
    exact ⟨n, by rw [if_pos hused, hreflects.check hc]; rfl⟩
  · have hbody : bodyTypes p = [p.type] := by simp [bodyTypes, huri, hoptions, ← hclaimed, hused]
    rw [hbody] at hc
    have hform : n.formParams = [] := hreflects.formParams_eq_nil hc (by simp)
    have hfree : n.bodyIndex = none := by
      have hone := hc.single
      have hlist := congrArg List.length hreflects.body
      simp only [List.length_append, List.length_map, List.length_singleton] at hone hlist
      exact Option.toList_eq_nil_iff.mp (List.eq_nil_of_length_eq_zero (by omega))
    exact ⟨_, by rw [if_neg hused, if_neg (by simp [hform]), if_neg (by simp [hfree])]⟩

theorem exists_placed {rest : List (Nat × Attribute)} {more : List (Nat × TypeRef)}
    (h : m.Reflects t as bodies targets) (hm : m.FreshFrom k)
    (hc : Compatible t (as ++ placed Parameter.attributes k ps ++ rest) (bodies ++ placed bodyTypes k ps ++ more)) :
    ∃ m', dialect.placeParameters k ps m = .ok m' := by
  induction ps generalizing k m as bodies targets with
  | nil => exact ⟨m, rfl⟩
  | cons p ps ih =>
    simp only [placed_cons, ← List.append_assoc] at hc
    obtain ⟨m₁, hm₁⟩ := exists_place h hm (by simpa only [List.append_assoc] using hc)
    obtain ⟨m', hm'⟩ := ih (reflects_of_place h hm hm₁) (freshFrom_succ hm hm₁) hc
    exact ⟨m', by rw [Dialect.placeParameters, hm₁]; exact hm'⟩

structure Blank (t : RequestTemplate) (m : Metadata) : Prop where
  reflects : m.Reflects t [] [] []
  fresh : m.FreshFrom 0

theorem blank_of_read {i : Interface} {op : Operation} (h : dialect.readAttributes i op = .ok m) :
    Blank m.template m := by
  have hindexed : m.Indexed 0 := (readAttributes_fills h).indexed (indexed_new ..)
  rw [(readAttributes_fills h).frame] at hindexed ⊢
  refine ⟨⟨⟨.nil, fun k => rfl, ?_, fun n => ?_⟩, rfl, rfl, rfl, rfl, rfl, rfl, rfl⟩, hindexed, rfl⟩
  · intro n hn
    cases hn
  · exact ⟨fun hn => (List.not_mem_nil hn).elim, fun hn => (List.not_mem_nil hn.1).elim⟩

/-- The parameters of a method are accepted just if their parts do not exclude each other, and that
does not depend on their order. -/
theorem placed_iff (hm : Blank t m) :
    (∃ m', dialect.placeParameters 0 ps m = .ok m' ∧ Dialect.checkBodyAndForm m' = .ok ()) ↔
      Compatible t (placed Parameter.attributes 0 ps) (placed bodyTypes 0 ps) := by
  constructor
  · rintro ⟨m', hplaced, hcheck⟩
    exact (reflects_of_placed hm.reflects hm.fresh hplaced).compatible hcheck
  · intro hc
    have hwhole : Compatible t ([] ++ placed Parameter.attributes 0 ps ++ []) ([] ++ placed bodyTypes 0 ps ++ []) := by
      simpa using hc
    obtain ⟨m', hplaced⟩ := exists_placed hm.reflects hm.fresh hwhole
    have hreflects := reflects_of_placed hm.reflects hm.fresh hplaced
    exact ⟨m', hplaced, hreflects.check hwhole⟩

end DefaultDialect

end DeclarativeHttp
