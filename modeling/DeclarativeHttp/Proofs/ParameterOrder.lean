import DeclarativeHttp.Proofs.Agreement
import DeclarativeHttp.Proofs.Parts
import Mathlib.Data.List.Forall2
import Mathlib.Data.List.Nodup
import Mathlib.Data.Prod.Basic
import Mathlib.Logic.Equiv.Basic

/-!
# Parameters in another order

Whether parameters are accepted depends on all of them together (`Compatible`), and what the
metadata say of them depends on their attributes and types alone (`Metadata.Reflects`). Both are the
same for another order of the parameters, up to the places (`parameter_order_free`).
-/

namespace DeclarativeHttp

variable {σ : Equiv.Perm ℕ}

/-! ## Places of a list in another order -/

section
variable {α : Type} {l l' : List α} (h : ∀ k, l'[σ k]? = l[k]?)
include h

theorem zipIdx_perm : l'.zipIdx.Perm (l.zipIdx.map (Prod.map id σ)) := by
  have hnodup : ∀ l : List α, l.zipIdx.Nodup := fun l => by
    refine List.Nodup.of_map Prod.snd ?_
    rw [List.zipIdx_map_snd]
    exact List.nodup_range'
  have hinjective : Function.Injective (Prod.map id σ : α × ℕ → α × ℕ) :=
    Function.injective_id.prodMap σ.injective
  refine (List.perm_ext_iff_of_nodup (hnodup l') ((hnodup l).map hinjective)).mpr ?_
  rintro ⟨a, j⟩
  rw [List.mk_mem_zipIdx_iff_getElem?, List.mem_map]
  constructor
  · intro ha
    refine ⟨(a, σ.symm j), List.mk_mem_zipIdx_iff_getElem?.mpr ?_, by simp⟩
    rw [← h, σ.apply_symm_apply, ha]
  · rintro ⟨⟨b, k⟩, hb, heq⟩
    cases heq
    exact (h k).trans (List.mk_mem_zipIdx_iff_getElem?.mp hb)

theorem perm_of_places : l'.Perm l := by
  have hperm := (zipIdx_perm h).map Prod.fst
  rw [List.map_map, List.zipIdx_map_fst] at hperm
  rwa [← List.zipIdx_map_fst 0 l]

end

theorem eq_of_perm_of_short {α : Type} {l l' : List α} (h : l'.Perm l) (hshort : l.length ≤ 1) :
    l' = l := by
  match l, hshort with
  | [], _ => exact h.eq_nil
  | [a], _ => exact h.eq_singleton

theorem option_of_perm {α β : Type} {f : α → β} {l : List α} {l' : List β} {x : Option α}
    {y : Option β} (h : l'.Perm (l.map f)) (hx : l = x.toList) (hy : l' = y.toList) :
    y = x.map f := by
  subst hx hy
  have hshort : (x.toList.map f).length ≤ 1 := by
    rw [List.length_map]
    exact x.length_toList_le
  have hlists := congrArg List.head? (eq_of_perm_of_short h hshort)
  rwa [List.head?_map, Option.head?_toList, Option.head?_toList] at hlists

/-! ## What the parameters say -/

namespace Parameter

variable {ps ps' : List Parameter}

theorem placed_perm {α : Type} (f : Parameter → List α) (h : ∀ k, ps'[σ k]? = ps[k]?) :
    (placed f 0 ps').Perm ((placed f 0 ps).map (Prod.map σ id)) := by
  have hperm := (zipIdx_perm h).flatMap_right fun q => (f q.1).map (q.2, ·)
  rw [List.flatMap_map] at hperm
  rw [placed, placed, List.map_flatMap]
  refine hperm.trans (.of_eq (congrArg (List.flatMap · _) (funext fun q => ?_)))
  rw [List.map_map]
  rfl

theorem namesAt_attributes (p : Parameter) (k j : ℕ) :
    namesAt (p.attributes.map (k, ·)) j = if k = j then p.paramNames else [] := by
  rw [namesAt, List.filterMap_map]
  split
  · rename_i hj
    refine congrArg (List.filterMap · p.attributes) (funext fun a => ?_)
    cases a <;> simp [Attribute.paramName?, hj]
  · rename_i hj
    exact List.filterMap_eq_nil_iff.mpr fun a _ => if_neg hj

theorem namesAt_placed_of_lt {n k : ℕ} (h : k < n) : namesAt (placed attributes n ps) k = [] := by
  induction ps generalizing n with
  | nil => rfl
  | cons p ps ih =>
    rw [placed_cons, namesAt_append, namesAt_attributes, if_neg (by omega), ih (by omega),
      List.append_nil]

theorem namesAt_placed (ps : List Parameter) (n k : ℕ) :
    namesAt (placed attributes n ps) (n + k) = ps[k]?.elim [] paramNames := by
  induction ps generalizing n k with
  | nil => rfl
  | cons p ps ih =>
    rw [placed_cons, namesAt_append, namesAt_attributes]
    cases k with
    | zero => rw [if_pos (Nat.add_zero n).symm, namesAt_placed_of_lt (by omega), List.append_nil]; rfl
    | succ k =>
      have hindex : n + (k + 1) = n + 1 + k := by omega
      rw [if_neg (by omega), hindex, ih]
      rfl

end Parameter

section
variable {as as' : List (ℕ × Attribute)} {bodies bodies' : List (ℕ × TypeRef)} {t : RequestTemplate}
  (h : as'.Perm (as.map (Prod.map σ id)))
include h

theorem givenNames_perm : (givenNames as').Perm (givenNames as) := by
  have hperm := h.filterMap fun q => q.2.paramName?
  rwa [List.filterMap_map] at hperm

theorem queryMaps_perm : (queryMaps as').Perm ((queryMaps as).map (Prod.map σ id)) := by
  refine (h.filterMap _).trans (.of_eq ?_)
  rw [List.filterMap_map, queryMaps, List.map_filterMap]
  refine congrArg (List.filterMap · as) (funext fun q => ?_)
  cases hflag : q.2.queryFlag? <;> simp [hflag]

theorem headerMaps_perm : (headerMaps as').Perm ((headerMaps as).map σ) := by
  refine (h.filterMap _).trans (.of_eq ?_)
  rw [List.filterMap_map, headerMaps, List.map_filterMap]
  refine congrArg (List.filterMap · as) (funext fun q => ?_)
  cases hheader : q.2.isHeaderMap <;> simp [hheader]

theorem Compatible.of_perm (hc : Compatible t as bodies)
    (hbodies : bodies'.Perm (bodies.map (Prod.map σ id))) :
    Compatible t as' bodies' where
  written n hn := hc.written n ((givenNames_perm h).mem_iff.mp hn)
  queryMaps := by
    rw [(queryMaps_perm h).length_eq, List.length_map]
    exact hc.queryMaps
  headerMaps := by
    rw [(headerMaps_perm h).length_eq, List.length_map]
    exact hc.headerMaps
  single := by
    rw [hbodies.length_eq, List.length_map]
    exact hc.single
  exclusive := by
    refine hc.exclusive.imp (fun hnil => ?_) fun hfound n hn => hfound n ((givenNames_perm h).mem_iff.mp hn)
    rw [hnil] at hbodies
    exact hbodies.eq_nil

end

/-! ## What the metadata say -/

/-- They say the same of parameters in another order: what
the one says of the place `k` the other says of `σ k`. -/
structure Metadata.Reordered (σ : Equiv.Perm ℕ) (m m' : Metadata) : Prop where
  template : m'.template = m.template
  bodyIndex : m'.bodyIndex = m.bodyIndex.map σ
  queryMapIndex : m'.queryMapIndex = m.queryMapIndex.map σ
  headerMapIndex : m'.headerMapIndex = m.headerMapIndex.map σ
  names : ∀ k, m'.names.get? (σ k) = m.names.get? k
  queryMapEncoded : m'.queryMapEncoded = m.queryMapEncoded
  bodyType : m'.bodyType = m.bodyType
  formParams : ∀ n, n ∈ m'.formParams ↔ n ∈ m.formParams
  /-- Of several parameters that are URIs the last one counts, and that may be another one. -/
  urlIndex : (m.paramTypes.filter TypeRef.isUri).length ≤ 1 → m'.urlIndex = m.urlIndex.map σ

open Parameter (placed placed_cons placed_perm bodyTypes targetTypes)

theorem Parameter.length_targets (n : ℕ) (ps : List Parameter) :
    (placed targetTypes n ps).length = ((ps.map Parameter.type).filter TypeRef.isUri).length := by
  induction ps generalizing n with
  | nil => rfl
  | cons p ps ih =>
    rw [placed_cons, List.length_append, List.length_map, ih, List.map_cons, List.filter_cons, targetTypes]
    split
    · exact Nat.add_comm 1 _
    · exact Nat.zero_add _

theorem Metadata.Reflects.reordered {t : RequestTemplate} {ps ps' : List Parameter}
    {m m' : Metadata} (h : ∀ k, ps'[σ k]? = ps[k]?)
    (hm : m.Reflects t (placed Parameter.attributes 0 ps) (placed bodyTypes 0 ps) (placed targetTypes 0 ps))
    (hm' : m'.Reflects t (placed Parameter.attributes 0 ps') (placed bodyTypes 0 ps') (placed targetTypes 0 ps'))
    (htypes : m.paramTypes = ps.map Parameter.type) : m.Reordered σ m' := by
  have hattributes := placed_perm Parameter.attributes h
  have hbodies := placed_perm bodyTypes h
  have hplaces : ∀ {α : Type} {l l' : List (ℕ × α)}, l'.Perm (l.map (Prod.map σ id)) →
      (l'.map Prod.fst).Perm ((l.map Prod.fst).map σ) := fun hl => by
    have hfst := hl.map Prod.fst
    rw [List.map_map] at hfst
    rw [List.map_map]
    exact hfst
  refine ⟨hm'.template.trans hm.template.symm, option_of_perm (hplaces hbodies) hm.body hm'.body,
    option_of_perm (hplaces (queryMaps_perm hattributes)) hm.queryMap hm'.queryMap,
    option_of_perm (headerMaps_perm hattributes) hm.headerMap hm'.headerMap, fun k => ?_, ?_,
    ?_, fun n => ?_,
    fun hone => ?_⟩
  · have hnames := Parameter.namesAt_placed ps 0 k
    have hnames' := Parameter.namesAt_placed ps' 0 (σ k)
    rw [Nat.zero_add] at hnames hnames'
    rw [hm'.names, hm.names, hnames, hnames', h]
  · rw [hm'.encoded, hm.encoded, (queryMaps_perm hattributes).any_eq, List.any_map]
    rfl
  · have htype := hbodies.map Prod.snd
    rw [List.map_map] at htype
    rw [option_of_perm (f := id) (by rw [List.map_id]; exact htype) hm.bodyType hm'.bodyType,
      Option.map_id_fun, id]
  · rw [hm'.formParams, hm.formParams, (givenNames_perm hattributes).mem_iff]
  · rw [htypes, ← Parameter.length_targets 0] at hone
    have htargets := hplaces (placed_perm targetTypes h)
    rw [hm'.url, hm.url, eq_of_perm_of_short htargets (by simpa using hone), List.getLast?_map]

/-! ## Methods -/

/-- The same method, with its parameters in another order
if it is abstract: the one in place `k` comes to `σ k`. -/
structure Operation.Rearranged (σ : Equiv.Perm ℕ) (op op' : Operation) : Prop where
  name : op'.name = op.name
  kind : op'.kind = op.kind
  attributes : op'.attributes = op.attributes
  returns : op'.returns = op.returns
  params : op.kind = .abstract → ∀ k, op'.params[σ k]? = op.params[k]?
  others : op.kind ≠ .abstract → op'.params = op.params

theorem Operation.Rearranged.resolve {op op' : Operation} (h : op.Rearranged σ op')
    (bindings : TypeRef.Bindings) :
    (op.resolve bindings).Rearranged σ (op'.resolve bindings) where
  name := h.name
  kind := h.kind
  attributes := h.attributes
  returns := congrArg (TypeRef.resolve bindings) h.returns
  params hkind k := by
    simp only [Operation.resolve, List.getElem?_map]
    rw [h.params hkind k]
  others hkind := by
    simp only [Operation.resolve]
    rw [h.others hkind]

namespace DefaultDialect

variable {i i' : Interface} {op op' : Operation} {m m' : Metadata}

theorem compatible_rearranged {t : RequestTemplate} {ps ps' : List Parameter}
    (h : ∀ k, ps'[σ k]? = ps[k]?) :
    Compatible t (placed Parameter.attributes 0 ps') (placed bodyTypes 0 ps') ↔
      Compatible t (placed Parameter.attributes 0 ps) (placed bodyTypes 0 ps) := by
  have hback : ∀ k, ps[σ.symm k]? = ps'[k]? := fun k => by rw [← h, σ.apply_symm_apply]
  exact ⟨fun hc => hc.of_perm (placed_perm _ hback) (placed_perm _ hback),
    fun hc => hc.of_perm (placed_perm _ h) (placed_perm _ h)⟩

theorem compatible_of_placed {t : RequestTemplate} {ps : List Parameter}
    {f : Metadata → Except Error Metadata} (hm : Blank t m)
    (h : (dialect.placeParameters 0 ps m >>= fun n => Dialect.checkBodyAndForm n >>= fun _ => f n) = .ok m') :
    Compatible t (placed Parameter.attributes 0 ps) (placed bodyTypes 0 ps) := by
  obtain ⟨n, hplaced, hrest⟩ := Error.bind_eq_ok h
  obtain ⟨⟨⟩, hcheck, -⟩ := Error.bind_eq_ok hrest
  exact (placed_iff hm).mp ⟨n, hplaced, hcheck⟩

theorem parseOperation_rearranged (hi : i.Resembles (· = ·) (Operation.Rearranged σ) i')
    (hop : op.Rearranged σ op') (hkind : op.kind = .abstract) :
    Agree (Metadata.Reordered σ) (dialect.parseOperation i op) (dialect.parseOperation i' op') := by
  have hparams := hop.params hkind
  unfold Dialect.parseOperation
  have hread : Agree Metadata.SameTemplate (dialect.readAttributes i op) (dialect.readAttributes i' op') := by
    refine readAttributes_agree (fun as as' has => ?_) hi hop.name ?_
    · rw [show as' = as from has.symm]
      exact .refl as
    · rw [hop.attributes]
      exact .refl _
  refine hread.bind fun m m' hread hread' htemplate => ?_
  replace htemplate : m'.template = m.template := htemplate
  have hblank := blank_of_read hread
  have hblank' := htemplate ▸ blank_of_read hread'
  have hignored : ∀ {i op m}, dialect.readAttributes i op = .ok m → m.ignored = false := fun h => by
    rw [(readAttributes_fills h).frame]
    rfl
  rw [hignored hread, hignored hread', htemplate]
  refine Agree.ite (fun hfalse => by cases hfalse) fun _ => Agree.guard fun _ => ?_
  -- two orders may fail at different parameters and in different checks, so all parameters are
  -- looked at together
  by_cases hc : Compatible m.template (placed Parameter.attributes 0 op.params) (placed bodyTypes 0 op.params)
  · obtain ⟨n, hplaced, hcheck⟩ := (placed_iff hblank).mpr hc
    obtain ⟨n', hplaced', hcheck'⟩ :=
      (placed_iff hblank').mpr ((compatible_rearranged hparams).mpr hc)
    have hsame : n.Reordered σ n' := by
      have hreflects := reflects_of_placed hblank.reflects hblank.fresh hplaced
      have hreflects' := reflects_of_placed hblank'.reflects hblank'.fresh hplaced'
      refine Metadata.Reflects.reordered hparams hreflects hreflects' ?_
      rw [placeParameters_paramTypes hplaced, (readAttributes_fills hread).frame]
      rfl
    have hmaps : Dialect.checkMaps op' n' = Dialect.checkMaps op n := by
      refine Dialect.checkMaps_congr ?_ ?_
      · rw [hsame.headerMapIndex, Option.bind_map]
        simp only [Function.comp_def, hparams]
      · rw [hsame.queryMapIndex, Option.bind_map]
        simp only [Function.comp_def, hparams]
    rw [hplaced, hplaced']
    show Agree _ (Dialect.checkBodyAndForm n >>= _) (Dialect.checkBodyAndForm n' >>= _)
    rw [hcheck, hcheck']
    show Agree _ (Dialect.checkMaps op n >>= _) (Dialect.checkMaps op' n' >>= _)
    rw [hmaps]
    exact (Agree.of_eq rfl).bind fun _ _ _ _ _ => .given hsame
  · exact Agree.of_matches (fun n hn => absurd (compatible_of_placed hblank hn) hc) fun n hn =>
      absurd ((compatible_rearranged hparams).mp (compatible_of_placed hblank' hn)) hc

theorem checkResolved_rearranged (hop : op.Rearranged σ op') (hkind : op.kind = .abstract) :
    Agree (fun _ _ => True) (Dialect.checkResolved i op) (Dialect.checkResolved i' op') := by
  have htypes : (op'.returns :: op'.params.map Parameter.type).Perm (op.returns :: op.params.map Parameter.type) := by
    rw [hop.returns]
    exact ((perm_of_places (hop.params hkind)).map _).cons _
  have hnone : Dialect.unresolvedType? op' = none ↔ Dialect.unresolvedType? op = none := by
    simp only [Dialect.unresolvedType?, List.find?_eq_none]
    exact ⟨fun h t ht => h t (htypes.mem_iff.mpr ht), fun h t ht => h t (htypes.mem_iff.mp ht)⟩
  unfold Dialect.checkResolved
  cases hfound : Dialect.unresolvedType? op with
  | none =>
    rw [hnone.mpr hfound]
    exact .given trivial
  | some type =>
    cases hfound' : Dialect.unresolvedType? op' with
    | none => rw [hnone.mp hfound'] at hfound; cases hfound
    | some type' => exact .failed _ _

end DefaultDialect

/-! ## Interfaces with one method -/

def Interface.abstractOperations (i : Interface) : List Operation :=
  ((i.parents.flatMap fun p => p.1.operations) ++ i.operations).filter fun op =>
    op.kind == .abstract

theorem length_abstractOperations {i : Interface} {ops : List Operation}
    (h : Dialect.allOperations i = .ok ops) :
    (ops.filter fun op => op.kind == .abstract).length = i.abstractOperations.length := by
  obtain ⟨hparents, rfl⟩ | ⟨parent, args, bindings, hparents, rfl⟩ := Dialect.allOperations_ok h
  · simp only [Interface.abstractOperations, hparents, List.flatMap_nil, List.nil_append]
  · simp only [Interface.abstractOperations, hparents, List.flatMap_cons, List.flatMap_nil,
      List.append_nil, List.filter_append, List.length_append, List.filter_map, List.length_map]
    rfl

/-- With the parameters of its only abstract method in another order an interface is refused as
before, or accepted with metadata that say the same of each parameter in its new place. -/
theorem parameter_order_free {i i' : Interface}
    (h : i.Resembles (· = ·) (Operation.Rearranged σ) i') (hone : i.abstractOperations.length = 1) :
    Agree (fun ms ms' => ∃ m m', ms = [m] ∧ ms' = [m'] ∧ m.Reordered σ m') (DefaultDialect.dialect.parse i)
      (DefaultDialect.dialect.parse i') := by
  refine (h.allOperations fun bindings op op' hop => hop.resolve bindings).bind fun ops ops' hops _ hall => ?_
  rw [← length_abstractOperations hops, List.length_eq_one_iff] at hone
  obtain ⟨op, hop⟩ := hone
  have hkind : op.kind = .abstract := by
    have hmem : op ∈ ops.filter fun op => op.kind == .abstract := hop ▸ List.mem_singleton_self op
    simpa using (List.mem_filter.mp hmem).2
  have hfiltered : List.Forall₂ (Operation.Rearranged σ) (ops.filter fun op => op.kind == .abstract)
      (ops'.filter fun op => op.kind == .abstract) := by
    refine List.rel_filter (fun op op' hop => ?_) hall
    show (op.kind == .abstract) = true ↔ (op'.kind == .abstract) = true
    rw [hop.kind]
  rw [hop] at hfiltered
  obtain ⟨op', _, hsame, hnil, hop'⟩ := List.forall₂_cons_left_iff.mp hfiltered
  rw [List.forall₂_nil_left_iff.mp hnil] at hop'
  rw [hop, hop']
  refine (DefaultDialect.checkResolved_rearranged hsame hkind).bind fun _ _ _ _ _ => ?_
  refine (DefaultDialect.parseOperation_rearranged h hsame hkind).bind fun m m' _ _ hm => ?_
  exact .given ⟨m, m', rfl, rfl, hm⟩

/-- The body changes places with the path variable; the map and the target stay. -/
theorem parameter_order_free_save :
    let id : Parameter := ⟨none, .simple "String", [.param "id" none]⟩
    let options : Parameter :=
  ⟨none, .named "Map" [.simple "String", .simple "String"], [.queryMap true]⟩
    let user : Parameter := ⟨none, .simple "User", []⟩
    let target : Parameter := ⟨none, .simple "Uri", []⟩
    let api (params : List Parameter) : Interface :=
      .mk "Api" [] [] [] [⟨"save", .abstract, [.requestLine "PUT /users/{id}" true .exploded], params, .void⟩]
    let i := api [id, options, user, target]
    let i' := api [user, options, id, target]
    i.Resembles (· = ·) (Operation.Rearranged (Equiv.swap 0 2)) i' ∧
    i.abstractOperations.length = 1 ∧
      ∃ m m', DefaultDialect.dialect.parse i = .ok [m] ∧
        DefaultDialect.dialect.parse i' = .ok [m'] ∧
        m.bodyIndex = some 2 ∧ m'.bodyIndex = some 0 ∧ m'.queryMapIndex = some 1 ∧
        m'.urlIndex = some 3 ∧
        m'.names.get? 2 = some ["id"] := by
  intro id options user target api i i'
  have hresembles : i.Resembles (· = ·) (Operation.Rearranged (Equiv.swap 0 2)) i' := by
    refine .mk "Api" [] .nil rfl rfl (.cons ⟨rfl, rfl, rfl, rfl, fun _ k => ?_, fun hkind => absurd rfl hkind⟩ .nil)
    match k with
    | 0 => rfl
    | 1 => rfl
    | 2 => rfl
    | 3 => rfl
    | k + 4 => rw [Equiv.swap_apply_of_ne_of_ne (by omega) (by omega)]; rfl
  have hread : (DefaultDialect.dialect.parse i).toOption.map (List.map fun m => decide (m.bodyIndex = some 2 ∧
      m.queryMapIndex = some 1 ∧ m.urlIndex = some 3 ∧ m.names.get? 0 = some ["id"] ∧
      (m.paramTypes.filter TypeRef.isUri).length ≤ 1)) = some [true] := by decide +kernel
  have hagree := parameter_order_free hresembles rfl
  refine ⟨hresembles, rfl, ?_⟩
  generalize DefaultDialect.dialect.parse i = x, DefaultDialect.dialect.parse i' =
    y at hagree hread ⊢
  cases hagree with
  | failed => cases hread
  | @given _ _ hsame =>
    obtain ⟨m, m', rfl, rfl, hm⟩ := hsame
    obtain ⟨hbody, hquery, hurl, hnames, huris⟩ :=
      of_decide_eq_true (List.cons.inj (Option.some.inj hread)).1
    refine ⟨m, m', rfl, rfl, hbody, ?_, ?_, ?_, ?_⟩
    · rw [hm.bodyIndex, hbody]; rfl
    · rw [hm.queryMapIndex, hquery]; rfl
    · rw [hm.urlIndex huris, hurl]; rfl
    · exact (hm.names 0).trans hnames

end DeclarativeHttp
