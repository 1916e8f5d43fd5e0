import DeclarativeHttp.Proofs.Agreement

/-!
# Attributes without a rule

An attribute that no rule takes leaves a warning and nothing else. Warnings are never looked at but
for the text of an error, so an interface is read the same whatever such attributes are put in
anywhere (`foreign_attributes_inert`).
-/

namespace DeclarativeHttp

/-! ## Interfaces with attributes put in -/

structure Parameter.Padded (t : RuleTable) (p p' : Parameter) : Prop where
  name : p'.name = p.name
  type : p'.type = p.type
  attributes : Attribute.Padded (RuleTable.Foreign t.parameterRules) p.attributes p'.attributes

structure Operation.Padded (t : RuleTable) (op op' : Operation) : Prop where
  name : op'.name = op.name
  kind : op'.kind = op.kind
  returns : op'.returns = op.returns
  attributes : Attribute.Padded (RuleTable.Foreign t.operationRules) op.attributes op'.attributes
  params : List.Forall₂ (Parameter.Padded t) op.params op'.params

/-- The same interface, perhaps with more attributes on
it, its parents, its methods and their parameters. -/
def Interface.Padded (t : RuleTable) : Interface → Interface → Prop :=
  Resembles (Attribute.Padded (RuleTable.Foreign t.interfaceRules)) (Operation.Padded t)

namespace Operation.Padded

variable {t : RuleTable} {op op' : Operation}

theorem resolve (h : op.Padded t op') (bindings : TypeRef.Bindings) :
    (op.resolve bindings).Padded t (op'.resolve bindings) where
  name := h.name
  kind := h.kind
  returns := congrArg (TypeRef.resolve bindings) h.returns
  attributes := h.attributes
  params := by
    simp only [Operation.resolve, List.forall₂_map_left_iff, List.forall₂_map_right_iff]
    exact h.params.imp fun p p' hp => ⟨hp.name, congrArg (TypeRef.resolve bindings) hp.type,
      hp.attributes⟩

theorem types (h : op.Padded t op') :
    op'.params.map Parameter.type = op.params.map Parameter.type := by
  have hparams := h.params
  generalize op.params = ps, op'.params = ps' at hparams ⊢
  induction hparams with
  | nil => rfl
  | cons hp _ ih => rw [List.map_cons, List.map_cons, hp.type, ih]

theorem configKey (h : op.Padded t op') (interface : String) :
    op'.configKey interface = op.configKey interface := by
  have hnames : ∀ ps : List Parameter, (ps.map fun p => p.type.rawName) =
      (ps.map Parameter.type).map TypeRef.rawName :=
    fun ps => by rw [List.map_map]; rfl
  simp only [Operation.configKey, h.name, hnames, h.types]

theorem type_at (h : op.Padded t op') (k : Option Nat) :
    (k.bind (op'.params[·]?)).map Parameter.type = (k.bind (op.params[·]?)).map Parameter.type := by
  cases k with
  | none => rfl
  | some k => rw [Option.bind_some, Option.bind_some, ← List.getElem?_map, ← List.getElem?_map, h.types]

end Operation.Padded

/-! ## Metadata but for their warnings -/

def Metadata.SameButWarnings (m m' : Metadata) : Prop := ∃ warnings, m' = { m with warnings }

open Metadata (SameButWarnings)

theorem Metadata.SameButWarnings.warn {m m' : Metadata} (h : m.SameButWarnings m') (text : String) :
    m.SameButWarnings (m'.warn text) := by
  obtain ⟨w, rfl⟩ := h
  exact ⟨_, rfl⟩

theorem Metadata.SameButWarnings.warn_left {m m' : Metadata} (h : m.SameButWarnings m')
    (text : String) :
    (m.warn text).SameButWarnings m' := by
  obtain ⟨w, rfl⟩ := h
  exact ⟨w, rfl⟩

namespace Dialect

variable {m m' : Metadata}

theorem checkBodyAndForm_agree (h : m.SameButWarnings m') :
    Agree (fun _ _ => True) (checkBodyAndForm m) (checkBodyAndForm m') := by
  obtain ⟨w, rfl⟩ := h
  exact Agree.ite (fun _ => .failed _ _) fun _ => .given trivial

theorem assignParameter_agree {bound : Bool} {p p' : Parameter} {k : Nat} (htype : p'.type = p.type)
    (h : m.SameButWarnings m') :
    Agree SameButWarnings (assignParameter bound p k m) (assignParameter bound p' k m') := by
  have hcheck := checkBodyAndForm_agree h
  obtain ⟨w, rfl⟩ := h
  unfold assignParameter
  rw [htype]
  refine Agree.ite (fun _ => .given ⟨w, rfl⟩) fun _ => ?_
  refine Agree.ite (fun _ => .given ⟨w, rfl⟩) fun _ => ?_
  refine Agree.ite (fun _ => ?_) fun _ => ?_
  · generalize checkBodyAndForm m = x, checkBodyAndForm { m with warnings := w } = y at hcheck
    cases hcheck with
    | failed e e' => exact .failed e e'
    | given _ => exact .given ⟨w, rfl⟩
  · refine Agree.ite (fun _ => .failed _ _) fun _ => ?_
    exact Agree.ite (fun _ => .failed _ _) fun _ => .given ⟨w, rfl⟩

end Dialect

namespace DefaultDialect

variable {i i' : Interface} {op op' : Operation} {p p' : Parameter} {m m' : Metadata} {k : Nat}

/-! ## Parameters -/

theorem parameterRule_agree {a : Attribute} {f : Step} (hf : parameterRule a k = some f)
    (h : m.SameButWarnings m') :
    Agree SameButWarnings (f m) (f m') := by
  obtain ⟨w, rfl⟩ := h
  cases a with
  | param name expander =>
    cases hf
    refine Agree.ite (fun _ => .failed _ _) fun _ => .given ⟨w, ?_⟩
    by_cases hplaceholder : m.template.hasRequestPlaceholder name = true <;> cases expander <;>
      simp only [Metadata.nameParam, Metadata.setExpander, Metadata.addFormParam, hplaceholder, if_true,
        Bool.false_eq_true, if_false]
  | queryMap encoded =>
    cases hf
    exact Agree.ite (fun _ => .failed _ _) fun _ => .given ⟨w, rfl⟩
  | headerMap =>
    cases hf
    exact Agree.ite (fun _ => .failed _ _) fun _ => .given ⟨w, rfl⟩
  | requestLine _ _ _ => cases hf
  | headers _ => cases hf
  | body _ => cases hf
  | other _ _ => cases hf

theorem parameterSteps_padded (hp : p.Padded table p') (k : Nat) :
    table.parameterSteps p' k = table.parameterSteps p k := by
  rw [parameterSteps_eq, parameterSteps_eq]
  exact hp.attributes.filterMap_eq fun a ha => ha _ List.mem_cons_self k

theorem readParameter_agree (hp : p.Padded table p') (h : m.SameButWarnings m') :
    Agree (fun r r' => r.1 = false ∧ r'.1 = false ∧ r.2.SameButWarnings r'.2) (dialect.readParameter p k m)
      (dialect.readParameter p' k m') := by
  obtain ⟨finish, hfinish, heq⟩ := readParameter_eq p k
  obtain ⟨finish', hfinish', heq'⟩ := readParameter_eq p' k
  have hrun : Agree SameButWarnings (RuleTable.run (table.parameterSteps p k) m)
      (RuleTable.run (table.parameterSteps p k) m') := by
    refine RuleTable.run_agree (fun f hf n n' hn => ?_) h
    obtain ⟨a, -, ha⟩ := mem_parameterSteps.mp hf
    exact parameterRule_agree ha hn
  rw [heq, heq', parameterSteps_padded hp]
  refine hrun.map fun m₁ m₂ hm => ⟨rfl, rfl, ?_⟩
  have hfinished : m₁.SameButWarnings (finish' m₂) := by
    obtain hkept | ⟨text, hwarned⟩ := hfinish' m₂
    · rwa [hkept]
    · rw [hwarned]
      exact hm.warn text
  obtain hkept | ⟨text, hwarned⟩ := hfinish m₁
  · rwa [hkept]
  · rw [hwarned]
    exact hfinished.warn_left text

theorem placeParameter_agree (hp : p.Padded table p') (h : m.SameButWarnings m') :
    Agree SameButWarnings (dialect.placeParameter p k m) (dialect.placeParameter p' k m') := by
  refine (readParameter_agree hp h).bind fun r r' _ _ hr => ?_
  obtain ⟨bound, n⟩ := r
  obtain ⟨bound', n'⟩ := r'
  obtain ⟨rfl, rfl, hn⟩ := hr
  exact Dialect.assignParameter_agree hp.type hn

theorem placeParameters_agree {ps ps' : List Parameter}
    (hps : List.Forall₂ (Parameter.Padded table) ps ps') (h : m.SameButWarnings m') :
    Agree SameButWarnings (dialect.placeParameters k ps m) (dialect.placeParameters k ps' m') := by
  induction hps generalizing k m m' with
  | nil => exact .given h
  | cons hp _ ih => exact (placeParameter_agree hp h).bind fun n n' _ _ hn => ih hn

/-! ## Methods and interfaces -/

theorem parseOperation_agree (hi : i.Padded table i') (hop : op.Padded table op') :
    Agree SameButWarnings (dialect.parseOperation i op) (dialect.parseOperation i' op') := by
  have hread : Agree SameButWarnings (dialect.readAttributes i op) (dialect.readAttributes i' op') := by
    refine (readAttributes_agree (fun _ _ => id) hi hop.name hop.attributes).mono fun m m' hm hm' htemplate => ?_
    -- beside the template both hold what new metadata hold
    refine ⟨m'.warnings, ?_⟩
    rw [(readAttributes_fills hm').frame, (readAttributes_fills hm).frame, htemplate, hop.configKey,
      hi.name, hop.name, hop.returns, hop.types]
  unfold Dialect.parseOperation
  refine hread.bind fun m m' _ _ hm => ?_
  have hsame := hm
  obtain ⟨w, rfl⟩ := hm
  refine Agree.ite (fun _ => .given ⟨w, rfl⟩) fun _ => Agree.guard fun _ => ?_
  refine (placeParameters_agree hop.params hsame).bind fun n n' _ _ hn => ?_
  refine (Dialect.checkBodyAndForm_agree hn).bind fun _ _ _ _ _ => ?_
  have hmaps : Dialect.checkMaps op' n' = Dialect.checkMaps op n := by
    obtain ⟨w, rfl⟩ := hn
    exact Dialect.checkMaps_congr (hop.type_at _) (hop.type_at _)
  rw [hmaps]
  exact (Agree.of_eq rfl).bind fun _ _ _ _ _ => .given hn

theorem checkResolved_agree (hi : i.Padded table i') (hop : op.Padded table op') :
    Dialect.checkResolved i' op' = Dialect.checkResolved i op := by
  unfold Dialect.checkResolved Dialect.unresolvedType?
  rw [hi.name, hop.name, hop.returns, hop.types]

theorem parseOperations_agree {done done' : List Metadata} {ops ops' : List Operation}
    (hi : i.Padded table i') (hops : List.Forall₂ (Operation.Padded table) ops ops')
    (hdone : List.Forall₂ SameButWarnings done done') :
    Agree (List.Forall₂ SameButWarnings) (dialect.parseOperations i done ops) (dialect.parseOperations i' done' ops') := by
  induction hops generalizing done done' with
  | nil => exact .given hdone
  | cons hop _ ih =>
    rw [Dialect.parseOperations, Dialect.parseOperations, checkResolved_agree hi hop]
    refine (Agree.of_eq rfl).bind fun _ _ _ _ _ => ?_
    refine (parseOperation_agree hi hop).bind fun m m' _ _ hm => ?_
    have hkeys : (done'.any fun n => n.configKey == m'.configKey) = done.any fun n => n.configKey ==
        m.configKey := by
      obtain ⟨w, rfl⟩ := hm
      clear ih
      induction hdone with
      | nil => rfl
      | cons hn _ ih =>
        obtain ⟨w', rfl⟩ := hn
        rw [List.any_cons, List.any_cons, ih]
    rw [hkeys]
    exact Agree.guard fun _ => ih (List.rel_append hdone (.cons hm .nil))

end DefaultDialect

/-- Attributes that the default dialect has no rule for, wherever they are put into an interface,
its parents, its methods and their parameters, make no difference: it is refused as before, or
accepted with as many methods as before, whose metadata differ in their warnings at most. -/
theorem foreign_attributes_inert {i i' : Interface} (h : i.Padded DefaultDialect.table i') :
    Agree (List.Forall₂ Metadata.SameButWarnings) (DefaultDialect.dialect.parse i) (DefaultDialect.dialect.parse i') := by
  refine (h.allOperations fun bindings op op' hop => hop.resolve bindings).bind fun ops ops' _ _ hops => ?_
  refine DefaultDialect.parseOperations_agree h (List.rel_filter (fun op op' hop => ?_) hops) .nil
  show (op.kind == .abstract) = true ↔ (op'.kind == .abstract) = true
  rw [hop.kind]

/-- Attributes in places where they mean nothing: on the interface and its parent, on a method, and
on parameters, one of which had none before and stays the body. -/
theorem foreign_attributes_inert_save :
    let base (more : List Attribute) :
    Interface := .mk "Base" [] [] (.headers ["X-Api: 1"] :: more) []
    let save (onMethod onId onUser : List Attribute) : Operation := ⟨"save", .abstract,
      onMethod ++ [.requestLine "PUT /users/{id}" true .exploded],
      [⟨none, .simple "String", onId ++ [.param "id" none]⟩, ⟨none, .simple "User", onUser⟩], .void⟩
    let i : Interface := .mk "Api" [] [(base [], [])] [] [save [] [] []]
    let i' : Interface := .mk "Api" [] [(base [.headerMap], [])] [.other "Marker" "beta"]
      [save [.queryMap true] [.headers ["no colon"]] [.body "{id}"]]
    i.Padded DefaultDialect.table i' ∧ ∃ m m', DefaultDialect.dialect.parse i = .ok [m] ∧
      DefaultDialect.dialect.parse i' = .ok [m'] ∧ m'.warnings.length = 3 ∧ m'.bodyIndex = some 1 ∧
      m.SameButWarnings m' := by
  intro base save i i'
  have hforeign : ∀ {ι : Type} {r : Attribute → ι → Option Step} {a : Attribute},
    (∀ x, r a x = none) →
      RuleTable.Foreign [r] a := fun h r hr => List.mem_singleton.mp hr ▸ h
  have hpadded : i.Padded DefaultDialect.table i' := by
    refine .mk "Api" [] (.cons (.mk "Base" [] .nil rfl ?_ .nil) .nil) rfl ?_ (.cons ⟨rfl, rfl, rfl, ?_, ?_⟩ .nil)
    · exact .keep _ (.put _ (hforeign fun _ => rfl) .nil)
    · exact .put _ (hforeign fun _ => rfl) .nil
    · exact .put _ (hforeign fun _ => rfl) (.refl _)
    · refine .cons ⟨rfl, rfl, .put _ (hforeign fun _ => rfl) (.refl _)⟩ (.cons ⟨rfl, rfl, ?_⟩ .nil)
      exact .put _ (hforeign fun _ => rfl) .nil
  have hread : (DefaultDialect.dialect.parse i').toOption.map
      (List.map fun m => (m.warnings.length, m.bodyIndex)) = some [(3, some 1)] := by decide +kernel
  have hagree := foreign_attributes_inert hpadded
  refine ⟨hpadded, ?_⟩
  generalize DefaultDialect.dialect.parse i = x, DefaultDialect.dialect.parse i' =
    y at hagree hread ⊢
  cases hagree with
  | failed => cases hread
  | @given ms ms' hsame =>
    have hread : ms'.map (fun m => (m.warnings.length, m.bodyIndex)) = [(3, some 1)] :=
      Option.some.inj hread
    obtain ⟨m', hms', hm'⟩ := List.map_eq_singleton_iff.mp hread
    rw [hms'] at hsame ⊢
    obtain ⟨m, _, hm, hnil, rfl⟩ := List.forall₂_cons_right_iff.mp hsame
    rw [List.forall₂_nil_right_iff.mp hnil]
    exact ⟨m, m', rfl, rfl, congrArg Prod.fst hm', congrArg Prod.snd hm', hm⟩

end DeclarativeHttp
