import DeclarativeHttp.Proofs.Reading

/-!
# Readings that agree

Two interfaces of one shape are read in the same steps. As long as these steps
agree, both readings fail or both succeed with results that belong together
(`Agree`). The attributes of interfaces and methods work on the template alone,
so what else the metadata hold, warnings among it, never decides what they do.
-/

namespace DeclarativeHttp

inductive Agree {α β : Type} (R : α → β → Prop) : Except Error α → Except Error β → Prop where
  | failed (e e' : Error) : Agree R (.error e) (.error e')
  | given {a : α} {b : β} : R a b → Agree R (.ok a) (.ok b)

namespace Agree

variable {α β γ δ : Type} {R : α → β → Prop} {S : γ → δ → Prop} {x : Except Error α}
  {y : Except Error β}

theorem bind {f : α → Except Error γ} {g : β → Except Error δ} (h : Agree R x y)
    (hfg : ∀ a b, x = .ok a → y = .ok b → R a b → Agree S (f a) (g b)) :
    Agree S (x >>= f) (y >>= g) := by
  cases h with
  | failed e e' => exact .failed e e'
  | given hab => exact hfg _ _ rfl rfl hab

theorem map {f : α → γ} {g : β → δ} (h : Agree R x y) (hfg : ∀ a b, R a b → S (f a) (g b)) :
    Agree S (x.map f) (y.map g) := by
  cases h with
  | failed e e' => exact .failed e e'
  | given hab => exact .given (hfg _ _ hab)

theorem mono {R' : α → β → Prop} (h : Agree R x y)
    (hR : ∀ a b, x = .ok a → y = .ok b → R a b → R' a b) :
    Agree R' x y := by
  cases h with
  | failed e e' => exact .failed e e'
  | given hab => exact .given (hR _ _ rfl rfl hab)

theorem ite {c : Prop} [Decidable c] {x' : Except Error α} {y' : Except Error β}
    (h : c → Agree R x y) (h' : ¬ c → Agree R x' y') :
    Agree R (if c then x else x') (if c then y else y') := by
  split
  · exact h ‹_›
  · exact h' ‹_›

theorem guard {c : Bool} {e e' : Error} {f : PUnit → Except Error α} {g : PUnit → Except Error β}
    (h : c = false → Agree R (f ⟨⟩) (g ⟨⟩)) :
    Agree R (if c = true then throw e >>= f else f ⟨⟩) (if c = true then throw e' >>= g else g ⟨⟩) := by
  cases c with
  | true => exact .failed e e'
  | false => exact h rfl

theorem of_eq {y : Except Error α} (h : y = x) : Agree (fun a b => b = a) x y := by
  subst h
  cases y with
  | error e => exact .failed e e
  | ok a => exact .given rfl

theorem of_matches (h : ∀ a, x = .ok a → ∃ b, y = .ok b ∧ R a b)
    (h' : ∀ b, y = .ok b → ∃ a, x = .ok a) :
    Agree R x y := by
  cases x with
  | error e =>
    cases y with
    | error e' => exact .failed e e'
    | ok b =>
      obtain ⟨a, ha⟩ := h' b rfl
      cases ha
  | ok a =>
    obtain ⟨b, rfl, hab⟩ := h a rfl
    exact .given hab

end Agree

/-! ## Interfaces of one shape -/

/-- The attributes of the interfaces belong together, and so do
their methods, one by one; and so it is with their parents. -/
inductive Interface.Resembles (A : List Attribute → List Attribute → Prop)
    (R : Operation → Operation → Prop) :
    Interface → Interface → Prop where
  | mk (name : String) (typeParams : List String)
    {parents parents' : List (Interface × List TypeRef)}
    {attributes attributes' : List Attribute} {operations operations' : List Operation} :
    List.Forall₂ (Resembles A R) (parents.map Prod.fst) (parents'.map Prod.fst) →
    parents'.map Prod.snd = parents.map Prod.snd → A attributes attributes' →
      List.Forall₂ R operations operations' →
    Resembles A R (.mk name typeParams parents attributes operations)
      (.mk name typeParams parents' attributes' operations')

namespace Interface.Resembles

variable {A : List Attribute → List Attribute → Prop} {R : Operation → Operation → Prop}
  {i i' : Interface}

section
variable (h : i.Resembles A R i')
include h

theorem name : i'.name = i.name := by
  cases h
  rfl

theorem attributes : A i.attributes i'.attributes := by
  cases h
  assumption

theorem operations : List.Forall₂ R i.operations i'.operations := by
  cases h
  assumption

theorem parents : List.Forall₂ (fun p p' => p.1.Resembles A R p'.1 ∧ p'.2 = p.2) i.parents i'.parents := by
  obtain @⟨_, _, parents, parents', _, _, _, _, hparents, harguments, -, -⟩ := h
  show List.Forall₂ _ parents parents'
  induction parents generalizing parents' with
  | nil =>
    obtain rfl : parents' = [] := List.map_eq_nil_iff.mp (List.forall₂_nil_left_iff.mp hparents)
    exact .nil
  | cons p ps ih =>
    cases parents' with
    | nil => cases hparents
    | cons p' ps' =>
      obtain ⟨hfirst, hrest⟩ := List.forall₂_cons.mp hparents
      obtain ⟨hargument, harguments⟩ := List.cons.inj harguments
      exact .cons ⟨hfirst, hargument⟩ (ih hrest harguments)

theorem allOperations (hresolve : ∀ bindings op op', R op op' → R (op.resolve bindings) (op'.resolve bindings)) :
    Agree (List.Forall₂ R) (Dialect.allOperations i) (Dialect.allOperations i') := by
  have hparents := h.parents
  obtain @⟨name, typeParams, parents, parents', _, _, operations, operations', -, -, -, hoperations⟩ := h
  unfold Dialect.allOperations
  refine Agree.guard fun _ => ?_
  cases hparents with
  | nil => exact .given hoperations
  | @cons p p' ps ps' hp hps =>
    cases hps with
    | cons => exact .failed _ _
    | nil =>
      obtain ⟨parent, args⟩ := p
      obtain ⟨parent', args'⟩ := p'
      obtain ⟨hparent, rfl⟩ := hp
      have hinherited := hparent.operations
      have hgrandparents := hparent.parents
      obtain @⟨parentName, parentTypes, grandparents, grandparents', _, _, _, _, -, -, -, -⟩ :=
        hparent
      cases hgrandparents with
      | cons => exact .failed _ _
      | nil =>
        refine Agree.guard fun _ => Agree.guard fun _ => ?_
        refine .given (List.rel_append ?_ hoperations)
        rw [List.forall₂_map_left_iff, List.forall₂_map_right_iff]
        exact hinherited.imp fun op op' => hresolve _ op op'

end

end Interface.Resembles

/-! ## Attributes put in between -/

def RuleTable.Foreign {ι : Type} (rules : List (Attribute → ι → Option Step))
    (a : Attribute) : Prop :=
  ∀ r ∈ rules, ∀ x, r a x = none

/-- The second list is the first one with attributes of a kind put in anywhere. -/
inductive Attribute.Padded (p : Attribute → Prop) : List Attribute → List Attribute → Prop where
  | nil : Padded p [] []
  | keep {as as' : List Attribute} (a : Attribute) : Padded p as as' → Padded p (a :: as) (a :: as')
  | put {as as' : List Attribute} (a : Attribute) : p a → Padded p as as' → Padded p as (a :: as')

namespace Attribute.Padded

variable {p : Attribute → Prop} {as as' : List Attribute}

theorem refl (as : List Attribute) : Padded p as as := by
  induction as with
  | nil => exact .nil
  | cons a as ih => exact .keep a ih

theorem filterMap_eq {α : Type} {f : Attribute → Option α} (h : Padded p as as')
    (hf : ∀ a, p a → f a = none) :
    as'.filterMap f = as.filterMap f := by
  induction h with
  | nil => rfl
  | keep a _ ih => rw [List.filterMap_cons, List.filterMap_cons, ih]
  | put a ha _ ih => rw [List.filterMap_cons, hf a ha, ih]

end Attribute.Padded

/-! ## Steps on the template -/

/-- The step fails whatever the metadata are, or it changes their template alone. -/
def OnTemplate (f : Step) : Prop :=
  (∃ e, ∀ m, f m = .error e) ∨ ∃ g, ∀ m, f m = .ok (m.updateTemplate g)

def Metadata.SameTemplate (m m' : Metadata) : Prop := m'.template = m.template

open Metadata (SameTemplate)

theorem OnTemplate.agree {f : Step} {m m' : Metadata} (hf : OnTemplate f) (h : m.SameTemplate m') :
    Agree SameTemplate (f m) (f m') := by
  obtain ⟨e, he⟩ | ⟨g, hg⟩ := hf
  · rw [he, he]
    exact .failed e e
  · rw [hg, hg]
    exact .given (congrArg g h)

theorem RuleTable.run_agree {R : Metadata → Metadata → Prop} {steps : List Step} {m m' : Metadata}
    (hsteps : ∀ f ∈ steps, ∀ m m', R m m' → Agree R (f m) (f m')) (h : R m m') :
    Agree R (run steps m) (run steps m') := by
  induction steps generalizing m m' with
  | nil => exact .given h
  | cons f fs ih =>
    exact (hsteps f List.mem_cons_self m m' h).bind fun n n' _ _ hn =>
      ih (fun g hg => hsteps g (List.mem_cons_of_mem f hg)) hn

/-- Of the maps of a method only the types are checked. -/
theorem Dialect.checkMaps_congr {op op' : Operation} {m m' : Metadata}
    (hheader : (m'.headerMapIndex.bind (op'.params[·]?)).map Parameter.type =
      (m.headerMapIndex.bind (op.params[·]?)).map Parameter.type)
    (hquery : (m'.queryMapIndex.bind (op'.params[·]?)).map Parameter.type =
      (m.queryMapIndex.bind (op.params[·]?)).map Parameter.type) :
      checkMaps op' m' = checkMaps op m := by
  let type (op : Operation) (k : Option Nat) := (k.bind (op.params[·]?)).map Parameter.type
  have hread : ∀ op m, checkMaps op m =
      ((type op m.headerMapIndex).elim (.ok ⟨⟩) (checkMapKeys "HeaderMap" · true) >>= fun _ =>
        (type op m.queryMapIndex).elim (.ok ⟨⟩) (checkMapKeys "QueryMap" · false)) := by
    intro op m
    simp only [checkMaps, type]
    cases m.headerMapIndex.bind (op.params[·]?) <;> cases m.queryMapIndex.bind (op.params[·]?) <;> rfl
  rw [hread, hread]
  simp only [type, hheader, hquery]

namespace DefaultDialect

variable {i i' : Interface} {op op' : Operation} {m m' : Metadata}

theorem onTemplate_of_interfaceRule {a : Attribute} {f : Step} (h : interfaceRule a i = some f) :
    OnTemplate f :=
  (interfaceRule_some h).imp_right fun ⟨_, _, _, _, hput⟩ => ⟨_, hput⟩

theorem onTemplate_of_operationRule {a : Attribute} {f : Step} (h : operationRule a op = some f) :
    OnTemplate f :=
  (operationRule_some h).imp_right fun ⟨g, _, hg⟩ => ⟨g, hg⟩

/-! ## Attributes of interfaces and methods -/

theorem interfaceRule_congr (h : i'.name = i.name) (a : Attribute) :
    interfaceRule a i' = interfaceRule a i := by
  cases a with
  | headers lines =>
    refine congrArg some (funext fun m => ?_)
    simp only [interfaceHeaders, h]
  | _ => rfl

theorem operationRule_congr (h : op'.name = op.name) (a : Attribute) :
    operationRule a op' = operationRule a op := by
  cases a with
  | requestLine line keep format =>
    refine congrArg some (funext fun m => ?_)
    simp only [operationLine, h]
  | headers lines =>
    refine congrArg some (funext fun m => ?_)
    simp only [operationHeaders, h]
  | _ => rfl

section
variable (hname : i'.name = i.name)
  (hattributes : Attribute.Padded (RuleTable.Foreign table.interfaceRules) i.attributes i'.attributes)
include hname hattributes

theorem interfaceSteps_padded : table.interfaceSteps i' = table.interfaceSteps i := by
  rw [interfaceSteps_eq, interfaceSteps_eq, hattributes.filterMap_eq fun a ha => ha _ List.mem_cons_self _]
  exact congrArg (i.attributes.filterMap ·) (funext (interfaceRule_congr hname))

theorem interface_agree (h : m.SameTemplate m') :
    Agree SameTemplate (dialect.interface i m) (dialect.interface i' m') := by
  simp only [dialect, RuleTable.dialect, interfaceSteps_padded hname hattributes]
  split
  · exact .given h
  · refine RuleTable.run_agree (fun f hf n n' => ?_) h
    rw [interfaceSteps_eq] at hf
    obtain ⟨a, -, ha⟩ := List.mem_filterMap.mp hf
    exact (onTemplate_of_interfaceRule ha).agree

end

theorem operation_agree {a : Attribute} (hname : op'.name = op.name) (h : m.SameTemplate m') :
    Agree SameTemplate (dialect.operation a op m) (dialect.operation a op' m') := by
  rw [operation_eq, operation_eq, operationRule_congr hname]
  cases hrule : operationRule a op with
  | none => exact .given h
  | some f => exact (onTemplate_of_operationRule hrule).agree h

theorem operation_foreign (op : Operation) (m : Metadata) {a : Attribute}
    (ha : RuleTable.Foreign table.operationRules a) :
    ∃ text, dialect.operation a op m = .ok (m.warn text) := by
  rw [operation_eq, ha operationRule List.mem_cons_self op]
  exact ⟨_, rfl⟩

theorem operationAttributes_agree {as as' : List Attribute} (hname : op'.name = op.name)
    (has : Attribute.Padded (RuleTable.Foreign table.operationRules) as as')
    (h : m.SameTemplate m') :
    Agree SameTemplate (dialect.operationAttributes op as m) (dialect.operationAttributes op' as' m') := by
  induction has generalizing m m' with
  | nil => exact .given h
  | keep a _ ih => exact (operation_agree hname h).bind fun n n' _ _ hn => ih hn
  | put a ha _ ih =>
    obtain ⟨text, hwarned⟩ := operation_foreign op' m' ha
    rw [Dialect.operationAttributes, hwarned]
    exact ih h

/-- The template does not depend on attributes that no rule takes, nor on the parameters. -/
theorem readAttributes_agree {A : List Attribute → List Attribute → Prop}
    {R : Operation → Operation → Prop}
    (hA : ∀ as as', A as as' → Attribute.Padded (RuleTable.Foreign table.interfaceRules) as as')
    (h : i.Resembles A R i') (hname : op'.name = op.name) (hattributes : Attribute.Padded (RuleTable.Foreign table.operationRules) op.attributes op'.attributes) :
    Agree SameTemplate (dialect.readAttributes i op) (dialect.readAttributes i' op') := by
  rw [readAttributes_eq, readAttributes_eq]
  refine Agree.bind (R := SameTemplate) ?_ fun m m' _ _ hm => ?_
  · have hparents := h.parents
    generalize i.parents = ps, i'.parents = ps' at hparents ⊢
    cases hparents with
    | nil => exact .given rfl
    | cons hp _ => exact interface_agree hp.1.name (hA _ _ hp.1.attributes) rfl
  · exact (interface_agree h.name (hA _ _ h.attributes) hm).bind fun n n' _ _ hn =>
      operationAttributes_agree hname hattributes hn

end DefaultDialect

end DeclarativeHttp
