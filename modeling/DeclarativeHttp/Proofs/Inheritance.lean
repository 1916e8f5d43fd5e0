import DeclarativeHttp.Proofs.Agreement
import Mathlib.Data.List.Forall2
import Mathlib.Data.List.Nodup

/-!
# Generic parents

An interface may inherit from a generic one, and then type arguments take the
place of the type parameters in all inherited methods. It is read as if the parent
had been written with these types in the first place (`inherits_applied`), and it
is refused as long as a variable is left in a method that becomes a request.
-/

namespace DeclarativeHttp

/-! ## Types -/

namespace TypeRef

inductive Mentions (x : String) : TypeRef → Prop where
  | var : Mentions x (.var x)
  | arg {name : String} {ts : List TypeRef} {t : TypeRef} : t ∈ ts → Mentions x t →
      Mentions x (.named name ts)

/-- The second type is the first one with the arguments
in place of the parameters, all put in at once. -/
inductive Applied (params : List String) (args : List TypeRef) : TypeRef → TypeRef → Prop where
  | bound {x : String} {t : TypeRef} (k : ℕ) : params[k]? = some x → args[k]? = some t →
      Applied params args (.var x) t
  | free {x : String} : x ∉ params → Applied params args (.var x) (.var x)
  | named (name : String) {ts ts' : List TypeRef} :
    List.Forall₂ (Applied params args) ts ts' →
      Applied params args (.named name ts) (.named name ts')
  | wildcard : Applied params args .wildcard .wildcard

mutual

theorem hasVariable_iff : (t : TypeRef) → (t.hasVariable = true ↔ ∃ x, t.Mentions x)
  | .named name ts => by
    rw [hasVariable, anyVariable_iff ts]
    constructor
    · intro h
      obtain ⟨t, ht, x, hx⟩ := h
      exact ⟨x, .arg ht hx⟩
    · intro h
      obtain ⟨x, hx⟩ := h
      cases hx with
      | arg ht hx => exact ⟨_, ht, x, hx⟩
  | .var x => by simpa [hasVariable] using ⟨x, .var⟩
  | .wildcard => by
    simp only [hasVariable, Bool.false_eq_true, false_iff, not_exists]
    intro x hx
    cases hx

theorem anyVariable_iff :
    (ts : List TypeRef) → (anyVariable ts = true ↔ ∃ t ∈ ts, ∃ x, t.Mentions x)
  | [] => by simp [anyVariable]
  | t :: ts => by simp [anyVariable, hasVariable_iff t, anyVariable_iff ts]

end

mutual

theorem resolve_of_unbound {bindings : Bindings} (h : ∀ x, bindings x = none) :
    (t : TypeRef) → t.resolve bindings = t
  | .named name ts => by rw [resolve, resolveAll_of_unbound h ts]
  | .var x => by rw [resolve, h]; rfl
  | .wildcard => rfl

theorem resolveAll_of_unbound {bindings : Bindings} (h : ∀ x, bindings x = none) :
    (ts : List TypeRef) → resolveAll bindings ts = ts
  | [] => rfl
  | t :: ts => by rw [resolveAll, resolve_of_unbound h t, resolveAll_of_unbound h ts]

end

namespace Bindings

variable {x : String} {params : List String} {t : TypeRef} {args : List TypeRef}

theorem ofLists_eq_none (h : x ∉ params) : ofLists params args x = none := by
  induction params generalizing args with
  | nil => rfl
  | cons p params ih =>
    cases args with
    | nil => rfl
    | cons a args =>
      simp only [List.mem_cons, not_or] at h
      simp [ofLists, ih h.2, h.1]

theorem ofLists_eq_some (hdistinct : params.Nodup) :
    ofLists params args x = some t ↔ ∃ k : ℕ, params[k]? = some x ∧ args[k]? = some t := by
  induction params generalizing args with
  | nil => simp [ofLists]
  | cons p params ih =>
    obtain ⟨hnew, hdistinct⟩ := List.nodup_cons.mp hdistinct
    cases args with
    | nil => simp [ofLists]
    | cons a args =>
      by_cases hx : x = p
      · subst hx
        simp only [ofLists, ofLists_eq_none hnew, if_true, Option.some.injEq]
        constructor
        · rintro rfl
          exact ⟨0, rfl, rfl⟩
        · rintro ⟨k, hk, ht⟩
          cases k with
          | zero => simpa using ht
          | succ k =>
            have hk : params[k]? = some x := hk
            exact absurd (List.mem_of_getElem? hk) hnew
      · have hlater : ofLists (p :: params) (a :: args) x = ofLists params args x := by
          simp only [ofLists, hx, if_false]
          cases ofLists params args x <;> rfl
        rw [hlater, ih hdistinct]
        constructor
        · rintro ⟨k, hk, ht⟩
          exact ⟨k + 1, hk, ht⟩
        · rintro ⟨k, hk, ht⟩
          cases k with
          | zero => exact absurd (Option.some.inj hk).symm hx
          | succ k => exact ⟨k, hk, ht⟩

theorem ofLists_of_mem (h : x ∈ params) (hdistinct : params.Nodup)
    (harity : args.length = params.length) :
    ∃ t, ofLists params args x = some t := by
  obtain ⟨k, hk, hx⟩ := List.mem_iff_getElem.mp h
  exact ⟨args[k], (ofLists_eq_some hdistinct).mpr ⟨k, by simp [hk, hx], by simp [harity, hk]⟩⟩

end Bindings

variable {params : List String} {args : List TypeRef}

mutual

theorem applied_iff (hdistinct : params.Nodup) (harity : args.length = params.length) :
    (t t' : TypeRef) → (Applied params args t t' ↔ t.resolve (.ofLists params args) = t')
  | .named name ts, t' => by
    rw [resolve]
    constructor
    · intro h
      cases h with
      | named _ h => rw [(forall₂_applied_iff hdistinct harity ts _).mp h]
    · rintro rfl
      exact .named name ((forall₂_applied_iff hdistinct harity ts _).mpr rfl)
  | .var x, t' => by
    rw [resolve]
    constructor
    · intro h
      cases h with
      | bound k hx ht => rw [(Bindings.ofLists_eq_some hdistinct).mpr ⟨k, hx, ht⟩]; rfl
      | free hx => rw [Bindings.ofLists_eq_none hx]; rfl
    · rintro rfl
      -- what is put in is not looked at again, so an argument may be named as a parameter
      by_cases hx : x ∈ params
      · obtain ⟨t, ht⟩ := Bindings.ofLists_of_mem hx hdistinct harity
        obtain ⟨k, hk, hkt⟩ := (Bindings.ofLists_eq_some hdistinct).mp ht
        rw [ht]
        exact .bound k hk hkt
      · rw [Bindings.ofLists_eq_none hx]
        exact .free hx
  | .wildcard, t' => by
    rw [resolve]
    constructor
    · intro h
      cases h
      rfl
    · rintro rfl
      exact .wildcard

theorem forall₂_applied_iff (hdistinct : params.Nodup) (harity : args.length = params.length) :
    (ts ts' : List TypeRef) →
    (List.Forall₂ (Applied params args) ts ts' ↔ resolveAll (.ofLists params args) ts = ts')
  | [], ts' => by simp [resolveAll, eq_comm]
  | t :: ts, ts' => by
    rw [List.forall₂_cons_left_iff, resolveAll]
    constructor
    · rintro ⟨t', r, ht, hts, rfl⟩
      rw [(applied_iff hdistinct harity t t').mp ht, (forall₂_applied_iff hdistinct harity ts r).mp hts]
    · rintro rfl
      exact ⟨_, _, (applied_iff hdistinct harity t _).mpr rfl, (forall₂_applied_iff hdistinct harity ts _).mpr rfl, rfl⟩

end

end TypeRef

/-! ## Interfaces -/

theorem forall₂_iff_map {α β : Type} {R : α → β → Prop} {f : α → β}
    (h : ∀ a b, R a b ↔ f a = b) {l : List α} {l' : List β} :
    List.Forall₂ R l l' ↔ l.map f = l' := by
  have hR : R = fun a b => f a = b := funext fun a => funext fun b => propext (h a b)
  rw [hR, ← List.forall₂_map_left_iff, List.forall₂_eq_eq_eq]

structure Parameter.Applied (typeParams : List String) (args : List TypeRef) (p p' : Parameter) :
    Prop where
  name : p'.name = p.name
  type : p.type.Applied typeParams args p'.type
  attributes : p'.attributes = p.attributes

structure Operation.Applied (typeParams : List String) (args : List TypeRef) (op op' : Operation) :
    Prop where
  name : op'.name = op.name
  kind : op'.kind = op.kind
  attributes : op'.attributes = op.attributes
  params : List.Forall₂ (Parameter.Applied typeParams args) op.params op'.params
  returns : op.returns.Applied typeParams args op'.returns

/-- The same interface written without type parameters,
with the arguments in their place in all methods. -/
structure Interface.Applied (args : List TypeRef) (i i' : Interface) : Prop where
  name : i'.name = i.name
  typeParams : i'.typeParams = []
  parents : i'.parents = i.parents
  attributes : i'.attributes = i.attributes
  operations : List.Forall₂ (Operation.Applied i.typeParams args) i.operations i'.operations

section
variable {params : List String} {args : List TypeRef} (hdistinct : params.Nodup)
  (harity : args.length = params.length)
include hdistinct harity

theorem Parameter.applied_iff (p p' : Parameter) :
    Parameter.Applied params args p p' ↔
    { p with type := p.type.resolve (.ofLists params args) } = p' := by
  constructor
  · intro h
    obtain ⟨name, type, attributes⟩ := p'
    obtain ⟨rfl, htype, rfl⟩ := h
    rw [(TypeRef.applied_iff hdistinct harity _ _).mp htype]
  · rintro rfl
    exact ⟨rfl, (TypeRef.applied_iff hdistinct harity _ _).mpr rfl, rfl⟩

theorem Operation.applied_iff (op op' : Operation) :
    Operation.Applied params args op op' ↔ op.resolve (.ofLists params args) = op' := by
  have hparams {ps ps' : List Parameter} :
      List.Forall₂ (Parameter.Applied params args) ps ps' ↔ _ :=
    forall₂_iff_map (Parameter.applied_iff hdistinct harity)
  constructor
  · intro h
    obtain ⟨name, kind, attributes, ps, returns⟩ := op'
    obtain ⟨rfl, rfl, rfl, hps, hreturns⟩ := h
    rw [Operation.resolve, hparams.mp hps, (TypeRef.applied_iff hdistinct harity _ _).mp hreturns]
  · rintro rfl
    exact ⟨rfl, rfl, rfl, hparams.mpr rfl, (TypeRef.applied_iff hdistinct harity _ _).mpr rfl⟩

end

theorem Operation.resolve_of_unbound {bindings : TypeRef.Bindings} (h : ∀ x, bindings x = none)
    (op : Operation) :
    op.resolve bindings = op := by
  simp [Operation.resolve, TypeRef.resolve_of_unbound h]

namespace Interface

section
variable {args : List TypeRef} {parent plain : Interface} (hdistinct : parent.typeParams.Nodup)
  (harity : args.length = parent.typeParams.length)
include hdistinct harity

theorem Applied.operations_eq (h : parent.Applied args plain) :
    parent.operations.map (Operation.resolve (.ofLists parent.typeParams args)) =
      plain.operations :=
  (forall₂_iff_map (Operation.applied_iff hdistinct harity)).mp h.operations

theorem applied_resolve : parent.Applied args (.mk parent.name [] parent.parents parent.attributes
    (parent.operations.map (Operation.resolve (.ofLists parent.typeParams args)))) :=
  ⟨rfl, rfl, rfl, rfl, (forall₂_iff_map (Operation.applied_iff hdistinct harity)).mpr rfl⟩

end

def extending (parents : List (Interface × List TypeRef)) (i : Interface) : Interface :=
  .mk i.name i.typeParams parents i.attributes i.operations

end Interface

def Operation.types (op : Operation) : List TypeRef := op.returns :: op.params.map Parameter.type

def Metadata.types (m : Metadata) : List TypeRef :=
  m.returnType :: (m.paramTypes ++ m.bodyType.toList)

/-! ## Reading -/

namespace Dialect

variable {d : Dialect} {i : Interface} {op : Operation} {ops : List Operation}
  {done ms : List Metadata}

theorem checkResolved_ok (h : checkResolved i op = .ok ()) :
    ∀ t ∈ op.types, ∀ x, ¬ t.Mentions x := by
  intro t ht x hx
  unfold checkResolved at h
  split at h
  · cases h
  · rename_i hnone
    exact List.find?_eq_none.mp hnone t ht ((TypeRef.hasVariable_iff t).mpr ⟨x, hx⟩)

theorem parseOperations_resolved (h : d.parseOperations i done ops = .ok ms) :
    ∀ op ∈ ops, ∀ t ∈ op.types, ∀ x, ¬ t.Mentions x := by
  induction ops generalizing done with
  | nil => simp
  | cons op ops ih =>
    obtain ⟨⟨⟩, hresolved, hread⟩ := Error.bind_eq_ok h
    obtain ⟨m, -, hrest⟩ := Error.bind_eq_ok hread
    split at hrest
    · cases hrest
    · exact List.forall_mem_cons.mpr ⟨checkResolved_ok hresolved, ih hrest⟩

theorem parse_resolved (h : d.parse i = .ok ms) (hops : allOperations i = .ok ops) :
    ∀ op ∈ ops, op.kind = .abstract → ∀ t ∈ op.types, ∀ x, ¬ t.Mentions x := by
  intro op hop hkind
  obtain ⟨ops', hops', hread⟩ := Error.bind_eq_ok h
  cases hops.symm.trans hops'
  exact parseOperations_resolved hread op (List.mem_filter.mpr ⟨hop, by simp [hkind]⟩)

section
variable {child parent plain : Interface} {args : List TypeRef}
  {before after : List (Interface × List TypeRef)}

theorem allOperations_extending (harity : args.length = parent.typeParams.length) :
    allOperations (child.extending (before ++ (parent, args) :: after)) =
      if child.typeParams.isEmpty then
        if before.isEmpty && after.isEmpty then
          if parent.parents.isEmpty then
            .ok (parent.operations.map (Operation.resolve (.ofLists parent.typeParams args)) ++ child.operations)
          else .error (.configuration s!"Only single-level inheritance supported: {child.name}")
        else .error (.configuration s!"Only single inheritance supported: {child.name}")
      else .error (.configuration s!"Parameterized types unsupported: {child.name}") := by
  obtain ⟨name, typeParams, _, attributes, operations⟩ := child
  cases typeParams with
  | cons x typeParams => rfl
  | nil =>
    -- with two parents or more none of them is looked at
    rcases before with _ | ⟨p, _ | ⟨q, before⟩⟩
    · cases after with
      | cons q after => rfl
      | nil =>
        obtain ⟨_, params, grandparents, _, _⟩ := parent
        cases grandparents with
        | cons p ps => rfl
        | nil =>
          have hfits : (params.length != args.length) = false := by
            simp [harity, Interface.typeParams]
          show (if (params.length != args.length) = true then _ else _) = _
          rw [hfits]
          rfl
    · rfl
    · rfl

theorem map_resolve_plain (h : plain.typeParams = []) :
    plain.operations.map (Operation.resolve (.ofLists plain.typeParams [])) = plain.operations := by
  have hplain : Operation.resolve (.ofLists [] []) = id :=
    funext (Operation.resolve_of_unbound fun _ => rfl)
  rw [h, hplain, List.map_id]

theorem allOperations_applied (h : parent.Applied args plain) (hdistinct : parent.typeParams.Nodup)
    (harity : args.length = parent.typeParams.length) :
    allOperations (child.extending (before ++ (parent, args) :: after)) =
      allOperations (child.extending (before ++ (plain, []) :: after)) := by
  rw [allOperations_extending harity, allOperations_extending (by rw [h.typeParams]; rfl),
    h.operations_eq hdistinct harity, map_resolve_plain h.typeParams, h.parents]

theorem operations_of_plain (hplain : plain.typeParams = [])
    (h : allOperations (child.extending (before ++ (plain, []) :: after)) = .ok ops) :
    ops = plain.operations ++ child.operations := by
  rw [allOperations_extending (by rw [hplain]; rfl), map_resolve_plain hplain] at h
  split at h
  · split at h
    · split at h
      · exact (Except.ok.inj h).symm
      · cases h
    · cases h
  · cases h

end

end Dialect

namespace DefaultDialect

variable {i i' : Interface} {op : Operation} {m : Metadata}

theorem interface_congr (hname : i'.name = i.name) (hattributes : i'.attributes = i.attributes) :
    dialect.interface i' = dialect.interface i := by
  have hsteps : table.interfaceSteps i' = table.interfaceSteps i := by
    apply interfaceSteps_padded hname
    rw [hattributes]
    exact .refl _
  funext m
  simp only [dialect, RuleTable.dialect, hsteps, RuleTable.interfaceWarning, hname, hattributes]

section
variable (hname : i'.name = i.name) (hattributes : i'.attributes = i.attributes)
  (hparent : (i'.parents.head?.elim .ok fun p => dialect.interface p.1) =
    i.parents.head?.elim .ok fun p => dialect.interface p.1)
include hname hattributes hparent

theorem parseOperation_congr (op : Operation) :
    dialect.parseOperation i' op = dialect.parseOperation i op := by
  have hread : dialect.readAttributes i' op = dialect.readAttributes i op := by
    rw [readAttributes_eq, readAttributes_eq, hparent, hname, interface_congr hname hattributes]
  rw [Dialect.parseOperation, Dialect.parseOperation, hread]

theorem parseOperations_congr (done : List Metadata) (ops : List Operation) :
    dialect.parseOperations i' done ops = dialect.parseOperations i done ops := by
  induction ops generalizing done with
  | nil => rfl
  | cons op ops ih =>
    have hcheck : Dialect.checkResolved i' op = Dialect.checkResolved i op := by
      simp only [Dialect.checkResolved, hname]
    simp only [Dialect.parseOperations, hcheck, parseOperation_congr hname hattributes hparent, ih]

theorem parse_congr (hops : Dialect.allOperations i' = Dialect.allOperations i) :
    dialect.parse i' = dialect.parse i := by
  simp only [Dialect.parse, hops, parseOperations_congr hname hattributes hparent]

end

/-! ## Types of metadata -/

theorem types_of_parseOperation (h : dialect.parseOperation i op = .ok m) :
    ∀ t ∈ m.types, t ∈ op.types := by
  obtain ⟨m₀, hfills, hplaced, -⟩ := parseOperation_ok h
  refine placeParameters_changes (motive := fun n => ∀ t ∈ n.types, t ∈ op.types) hplaced ?_
    fun j p hp n n' hchange hn => ?_
  · rw [hfills.frame]
    simp [Metadata.types, Metadata.new, Operation.types]
  · have hmem : p.type ∈ op.types :=
      List.mem_cons_of_mem _ (List.mem_map_of_mem (List.mem_of_getElem? hp))
    obtain hmarks | hplaces := hchange
    · cases hmarks <;> exact hn
    · cases hplaces with
      | target => exact hn
      | kept => exact hn
      | body =>
        intro t ht
        simp only [Metadata.types, Metadata.setBodyIndex, Option.toList_some, List.mem_cons,
          List.mem_append, List.not_mem_nil, or_false] at ht
        rcases ht with rfl | ht | rfl
        · exact hn _ List.mem_cons_self
        · exact hn t (List.mem_cons_of_mem _ (List.mem_append_left _ ht))
        · exact hmem

theorem types_of_parse {ms : List Metadata} (h : dialect.parse i = .ok ms) :
    ∀ m ∈ ms, ∀ t ∈ m.types, ∀ x, ¬ t.Mentions x := by
  intro m hm t ht x hx
  obtain ⟨op, hreads⟩ := Dialect.exists_reads h hm
  obtain ⟨ops, hops, hop, hkind⟩ := hreads.declared
  exact Dialect.parse_resolved h hops op hop hkind t (types_of_parseOperation hreads.read t ht) x hx

end DefaultDialect

/-- An interface that inherits from a parent with type arguments is read as if
the parent had been written with these types: it is refused for the same reason,
or it gives the same metadata. No type in them has a variable, and a variable
that is left in a method for a request is reason enough to refuse it. -/
theorem inherits_applied {parent plain : Interface} {args : List TypeRef}
    (h : parent.Applied args plain) (hdistinct : parent.typeParams.Nodup)
    (harity : args.length = parent.typeParams.length) (child : Interface)
    (before after : List (Interface × List TypeRef)) :
    let generic := child.extending (before ++ (parent, args) :: after)
    DefaultDialect.dialect.parse generic =
        DefaultDialect.dialect.parse (child.extending (before ++ (plain, []) :: after)) ∧
      (∀ ms, DefaultDialect.dialect.parse generic = .ok ms → ∀ m ∈ ms, ∀ t ∈ m.types, ∀ x,
        ¬ t.Mentions x) ∧
      ∀ op ∈ plain.operations ++ child.operations, op.kind = .abstract →
        (∃ t ∈ op.types, ∃ x, t.Mentions x) →
        ∃ e, DefaultDialect.dialect.parse generic = .error e := by
  intro generic
  have hparse : DefaultDialect.dialect.parse generic =
      DefaultDialect.dialect.parse (child.extending (before ++ (plain, []) :: after)) := by
    refine DefaultDialect.parse_congr rfl rfl ?_ (Dialect.allOperations_applied h hdistinct harity)
    cases before with
    | nil => exact (DefaultDialect.interface_congr h.name h.attributes).symm
    | cons p before => rfl
  refine ⟨hparse, fun ms => DefaultDialect.types_of_parse, fun op hop hkind hvariable => ?_⟩
  obtain ⟨t, ht, x, hx⟩ := hvariable
  cases hread : DefaultDialect.dialect.parse generic with
  | error e => exact ⟨e, rfl⟩
  | ok ms =>
    rw [hparse] at hread
    obtain ⟨ops, hops, -⟩ := Dialect.parse_ok hread
    rw [← Dialect.operations_of_plain h.typeParams hops] at hop
    exact absurd hx (Dialect.parse_resolved hread hops op hop hkind t ht x)

/-- The parameters stand below other types and twice; and then an argument is named as the other
parameter, which does not take its place. -/
theorem inherits_applied_crud :
    let save (key value : TypeRef) :
    Operation := ⟨"save", .abstract, [.requestLine "PUT /{key}" true .exploded],
      [⟨none, key, [.param "key" none]⟩, ⟨none, .named "List" [value], []⟩],
      .named "Map" [key, .named "List" [value]]⟩
    let describe : Operation := ⟨"describe", .default, [], [], .var "W"⟩
    let crud (params : List String) (key value : TypeRef) : Interface :=
      .mk "Crud" params [] [.headers ["Accept: */*"]] [save key value, describe]
    let generic := crud ["K", "V"] (.var "K") (.var "V")
    let users (parent : Interface) (args : List TypeRef) :
    Interface := .mk "Users" [] [(parent, args)] [] []
    let string := TypeRef.simple "String"
    let user := TypeRef.simple "User"
    generic.typeParams.Nodup ∧ (∀ key value, generic.Applied [key, value] (crud [] key value)) ∧
      (∃ m, DefaultDialect.dialect.parse (users generic [string, user]) = .ok [m] ∧
        DefaultDialect.dialect.parse (users (crud [] string user) []) = .ok [m] ∧
        m.returnType.text = "Map<String, List<User>>" ∧
        m.bodyType.map TypeRef.text = some "List<User>" ∧
        ∀ t ∈ m.types, ∀ x, ¬ t.Mentions x) ∧
      ∃ e, DefaultDialect.dialect.parse (users generic [.var "V", string]) = .error e := by
  intro save describe crud generic users string user
  have hdistinct : generic.typeParams.Nodup := by decide
  have happlied : ∀ key value, generic.Applied [key, value] (crud [] key value) := by
    intro key value
    exact Interface.applied_resolve hdistinct rfl
  refine ⟨hdistinct, happlied, ?_, ?_⟩
  · obtain ⟨hsame, hclosed, -⟩ :=
      inherits_applied (happlied string user) hdistinct rfl (users generic []) [] []
    have hread : (DefaultDialect.dialect.parse (users generic [string, user])).toOption.map
        (List.map fun m => (m.returnType.text, m.bodyType.map TypeRef.text)) =
          some [("Map<String, List<User>>", some "List<User>")] := by decide +kernel
    cases hparse : DefaultDialect.dialect.parse (users generic [string, user]) with
    | error e => rw [hparse] at hread; cases hread
    | ok ms =>
      rw [hparse] at hread
      obtain ⟨m, rfl, hm⟩ := List.map_eq_singleton_iff.mp (Option.some.inj hread)
      exact ⟨m, rfl, hsame.symm.trans hparse, congrArg Prod.fst hm, congrArg Prod.snd hm,
        hclosed [m] hparse m (List.mem_singleton_self m)⟩
  · refine (inherits_applied (happlied (.var "V") string) hdistinct rfl (users generic []) [] []).2.2
      (save (.var "V") string) ?_ rfl ⟨.var "V", ?_, "V", .var⟩
    · exact List.mem_append_left _ List.mem_cons_self
    · exact List.mem_cons_of_mem _ List.mem_cons_self

end DeclarativeHttp
