import DeclarativeHttp.Proofs.Binding
import DeclarativeHttp.Proofs.Parameters
import Mathlib.Data.List.Forall2

/-!
# Reading methods

What the default dialect makes of a method. The attributes of interface and method fill in the
template, each in its way (`Edits`) and all of them together in a way that `Skeleton` describes;
those of the parameters leave it alone and say only what part each parameter plays.
-/

namespace DeclarativeHttp

namespace Dialect

/-- The metadata of an abstract method of an interface that the dialect accepts. -/
structure Reads (d : Dialect) (i : Interface) (op : Operation) (m : Metadata) : Prop where
  accepted : ∃ ms, d.parse i = .ok ms ∧ m ∈ ms
  declared : ∃ ops, allOperations i = .ok ops ∧ op ∈ ops ∧ op.kind = .abstract
  read : d.parseOperation i op = .ok m

variable {d : Dialect} {i : Interface} {ops : List Operation} {done ms : List Metadata}

theorem parseOperations_ok (h : d.parseOperations i done ops = .ok ms) :
    ∃ more, ms = done ++ more ∧ List.Forall₂ (fun op m => d.parseOperation i op = .ok m) ops more := by
  induction ops generalizing done with
  | nil => cases h; exact ⟨[], by simp, .nil⟩
  | cons op ops ih =>
    obtain ⟨-, -, hread⟩ := Error.bind_eq_ok h
    obtain ⟨m, hm, hrest⟩ := Error.bind_eq_ok hread
    split at hrest
    · cases hrest
    · obtain ⟨more, rfl, hmore⟩ := ih hrest
      exact ⟨m :: more, by simp, .cons hm hmore⟩

theorem parse_ok (h : d.parse i = .ok ms) : ∃ ops, allOperations i = .ok ops ∧
    List.Forall₂ (fun op m => d.parseOperation i op = .ok m) (ops.filter fun op => op.kind == .abstract) ms := by
  obtain ⟨ops, hops, hrest⟩ := Error.bind_eq_ok h
  obtain ⟨more, rfl, hmore⟩ := parseOperations_ok hrest
  exact ⟨ops, hops, hmore⟩

theorem allOperations_ok (h : allOperations i = .ok ops) : i.parents = [] ∧ ops = i.operations ∨
    ∃ parent args bindings, i.parents = [(parent, args)] ∧
      ops = parent.operations.map (Operation.resolve bindings) ++ i.operations := by
  unfold allOperations at h
  split at h
  · rename_i hparents
    obtain ⟨-, h⟩ := Error.guard_eq_ok h
    cases h
    exact .inl ⟨hparents, rfl⟩
  · obtain ⟨-, h⟩ := Error.guard_eq_ok h
    cases h
  · rename_i parent args hparents
    obtain ⟨-, h⟩ := Error.guard_eq_ok h
    obtain ⟨-, h⟩ := Error.guard_eq_ok h
    obtain ⟨-, h⟩ := Error.guard_eq_ok h
    cases h
    exact .inr ⟨parent, args, _, hparents, rfl⟩

theorem exists_reads (h : d.parse i = .ok ms) {m : Metadata} (hm : m ∈ ms) :
    ∃ op, d.Reads i op m := by
  obtain ⟨ops, hops, hall⟩ := parse_ok h
  obtain ⟨k, hk, rfl⟩ := List.getElem_of_mem hm
  have hk' : k < (ops.filter fun op => op.kind == .abstract).length := by rwa [hall.length_eq]
  have hread := hall.get hk' hk
  have hop := List.mem_filter.mp (List.getElem_mem hk')
  exact ⟨_, ⟨ms, h, hm⟩, ⟨ops, hops, hop.1, by simpa using hop.2⟩, hread⟩

end Dialect

namespace Operation

def uris (op : Operation) : List (List Char) :=
  op.attributes.filterMap fun
    | .requestLine line _ _ => some (Text.trim ((Text.trim line.toList).dropWhile Char.isUpper))
    | _ => none

end Operation

namespace DefaultDialect

/-! ## What the rules do -/

variable {i : Interface} {op : Operation} {a : Attribute} {f : Step} {m m' m'' : Metadata}

inductive Edits (op : Operation) : Attribute → (RequestTemplate → RequestTemplate) → Prop where
  | line {line : String} {verb : Method} {uri : List Char} (keep : Bool) (format : CollectionFormat)
    (read : requestLine line op.name = .ok (verb, uri)) :
    Edits op (.requestLine line keep format) fun t =>
      (((t.setMethod verb).appendUri uri).setDecodeSlash keep).setFormat format
  | body (text : String) : Edits op (.body text) fun t =>
    if text.toList.contains '\x7b' then t.setBodyTemplate text.toList else t.setBody (Utf8.ofString text)
  | headers {lines : List String} {groups : Multimap String}
    (read : headerGroups lines [] = .ok groups) :
    Edits op (.headers lines) fun t => groups.foldl (fun t p => t.header p.1 p.2) t

/-- A rule for methods refuses what an attribute says, or it does it, whatever the metadata are. -/
theorem operationRule_some (h : operationRule a op = some f) :
    (∃ e, ∀ m, f m = .error e) ∨ ∃ g, Edits op a g ∧ ∀ m, f m = .ok (m.updateTemplate g) := by
  cases a with
  | requestLine line keep format =>
    cases h
    cases hline : requestLine line op.name with
    | error e => exact .inl ⟨e, fun m => by rw [operationLine, hline]; rfl⟩
    | ok found => exact .inr ⟨_, .line keep format hline, fun m => by rw [operationLine, hline]; rfl⟩
  | body text =>
    cases h
    exact .inr ⟨_, .body text, fun m => rfl⟩
  | headers lines =>
    cases h
    by_cases hempty : lines.isEmpty = true
    · exact .inl ⟨_, fun m => by rw [operationHeaders, if_pos hempty]; rfl⟩
    · cases hgroups : headerGroups lines [] with
      | error e => exact .inl ⟨e, fun m => by rw [operationHeaders, if_neg hempty, hgroups]; rfl⟩
      | ok groups => exact .inr ⟨_, .headers hgroups, fun m => by rw [operationHeaders, if_neg hempty, hgroups]; rfl⟩
  | param _ _ => cases h
  | queryMap _ => cases h
  | headerMap => cases h
  | other _ _ => cases h

theorem interfaceRule_some (h : interfaceRule a i = some f) : (∃ e, ∀ m, f m = .error e) ∨
    ∃ lines groups, a = .headers lines ∧ headerGroups lines [] = .ok groups ∧ ∀ m, f m =
      .ok (m.updateTemplate fun t => groups.foldl (fun t p => (t.removeHeader p.1).header p.1 p.2) t) := by
  cases a with
  | headers lines =>
    cases h
    by_cases hempty : lines.isEmpty = true
    · exact .inl ⟨_, fun m => by rw [interfaceHeaders, if_pos hempty]; rfl⟩
    · cases hgroups : headerGroups lines [] with
      | error e => exact .inl ⟨e, fun m => by rw [interfaceHeaders, if_neg hempty, hgroups]; rfl⟩
      | ok groups =>
        exact .inr ⟨lines, groups, rfl, hgroups, fun m => by rw [interfaceHeaders, if_neg hempty, hgroups]; rfl⟩
  | requestLine _ _ _ => cases h
  | body _ => cases h
  | param _ _ => cases h
  | queryMap _ => cases h
  | headerMap => cases h
  | other _ _ => cases h

theorem interfaceSteps_eq (i : Interface) :
    table.interfaceSteps i = i.attributes.filterMap fun a => interfaceRule a i := by
  rw [List.filterMap_eq_flatMap_toList]
  refine congrArg (i.attributes.flatMap ·) (funext fun a => ?_)
  simp only [table, List.filterMap_cons, List.filterMap_nil]
  cases interfaceRule a i <;> rfl

theorem operation_eq (a : Attribute) (op : Operation) (m : Metadata) : dialect.operation a op m =
    (operationRule a op).elim (.ok (m.warn (table.operationWarning a op))) fun f => f m := by
  have hsteps : table.operationSteps a op = (operationRule a op).toList := by
    simp only [RuleTable.operationSteps, table, List.filterMap_cons, List.filterMap_nil]
    cases operationRule a op <;> rfl
  simp only [dialect, RuleTable.dialect, hsteps]
  cases operationRule a op with
  | none => rfl
  | some f =>
    show (f m >>= fun m' => .ok m') = f m
    cases f m <;> rfl

theorem interface_ok (h : dialect.interface i m = .ok m') :
    ∃ m₁, RuleTable.run (i.attributes.filterMap fun a => interfaceRule a i) m = .ok m₁ ∧
      (m' = m₁ ∨ ∃ text, m' = m₁.warn text) := by
  simp only [dialect, RuleTable.dialect, interfaceSteps_eq] at h
  split at h
  · rename_i hnone
    cases h
    exact ⟨m, by rw [List.isEmpty_iff.mp hnone]; rfl, .inr ⟨_, rfl⟩⟩
  · exact ⟨m', h, .inl rfl⟩

theorem operation_ok (h : dialect.operation a op m = .ok m') :
    operationRule a op = none ∧ (∃ text, m' = m.warn text) ∨
    ∃ g, Edits op a g ∧ m' = m.updateTemplate g := by
  rw [operation_eq] at h
  cases hrule : operationRule a op with
  | none =>
    rw [hrule] at h
    cases h
    exact .inl ⟨rfl, _, rfl⟩
  | some f =>
    rw [hrule] at h
    obtain ⟨e, he⟩ | ⟨g, hg, hf⟩ := operationRule_some hrule
    · cases (he m).symm.trans h
    · cases (hf m).symm.trans h
      exact .inr ⟨g, hg, rfl⟩

/-! ## Skeletons -/

/-- The templates that the attributes of an interface and a method can make. -/
inductive Skeleton (op : Operation) : RequestTemplate → Prop where
  | empty : Skeleton op RequestTemplate.empty
  | removeHeader {t : RequestTemplate} (name : String) : Skeleton op t →
      Skeleton op (t.removeHeader name)
  | header {t : RequestTemplate} (name : String) (values : List String) :
    Skeleton op t → Skeleton op (t.header name values)
  | line {t : RequestTemplate} (verb : Method) (uri : List Char) (keep : Bool)
    (format : CollectionFormat) :
    uri ∈ op.uris → Skeleton op t →
    Skeleton op ((((t.setMethod verb).appendUri uri).setDecodeSlash keep).setFormat format)
  | body {t : RequestTemplate} (bytes : Bytes) : Skeleton op t → Skeleton op (t.setBody bytes)
  | bodyTemplate {t : RequestTemplate} (text : List Char) : Skeleton op t →
      Skeleton op (t.setBodyTemplate text)

/-- What attributes of interfaces and methods may change:
the template, as far as a skeleton, and the warnings. -/
structure Fills (op : Operation) (m m' : Metadata) : Prop where
  frame : m' = { m with template := m'.template, warnings := m'.warnings }
  skeleton : Skeleton op m.template → Skeleton op m'.template

theorem Fills.refl (m : Metadata) : Fills op m m := ⟨rfl, id⟩

theorem Fills.warn (m : Metadata) (text : String) : Fills op m (m.warn text) := ⟨rfl, id⟩

theorem Fills.trans (h : Fills op m m') (h' : Fills op m' m'') : Fills op m m'' := by
  refine ⟨?_, h'.skeleton ∘ h.skeleton⟩
  rw [h'.frame, h.frame]

theorem Fills.run {steps : List Step} (hstep : ∀ f ∈ steps, ∀ m m', f m = .ok m' → Fills op m m')
    (h : RuleTable.run steps m = .ok m') : Fills op m m' :=
  RuleTable.run_keeps h (.refl m) fun f hf n n' hn hm => hm.trans (hstep f hf n n' hn)

theorem Fills.edit {g : RequestTemplate → RequestTemplate}
    (hg : ∀ t, Skeleton op t → Skeleton op (g t)) (m : Metadata) :
    Fills op m (m.updateTemplate g) := ⟨rfl, hg m.template⟩

theorem interface_fills (h : dialect.interface i m = .ok m') : Fills op m m' := by
  obtain ⟨m₁, hrun, hend⟩ := interface_ok h
  have hfills : Fills op m m₁ := by
    refine Fills.run (fun f hf n n' hn => ?_) hrun
    obtain ⟨a, -, hrule⟩ := List.mem_filterMap.mp hf
    obtain ⟨e, he⟩ | ⟨lines, groups, -, -, hput⟩ := interfaceRule_some hrule
    · cases (he n).symm.trans hn
    · cases (hput n).symm.trans hn
      refine .edit (fun t ht => ?_) n
      exact List.foldlRecOn groups _ ht fun t ht p _ => (ht.removeHeader p.1).header p.1 p.2
  obtain rfl | ⟨text, rfl⟩ := hend
  · exact hfills
  · exact hfills.trans (.warn m₁ text)

theorem requestLine_uri {line name : String} {verb : Method} {uri : List Char}
    (h : requestLine line name = .ok (verb, uri)) :
    uri = Text.trim ((Text.trim line.toList).dropWhile Char.isUpper) := by
  simp only [requestLine] at h
  split at h
  · cases h
  · split at h <;> cases h
    rfl

theorem operation_fills (ha : a ∈ op.attributes) (h : dialect.operation a op m = .ok m') :
    Fills op m m' := by
  obtain ⟨-, text, rfl⟩ | ⟨g, hg, rfl⟩ := operation_ok h
  · exact .warn m text
  · refine .edit (fun t ht => ?_) m
    cases hg with
    | line keep format hread =>
      refine .line _ _ keep format ?_ ht
      exact List.mem_filterMap.mpr ⟨_, ha, by rw [requestLine_uri hread]⟩
    | body text =>
      split
      · exact ht.bodyTemplate text.toList
      · exact ht.body _
    | headers => exact List.foldlRecOn _ _ ht fun t ht p _ => ht.header p.1 p.2

theorem operationAttributes_fills {as : List Attribute} (has : ∀ a ∈ as, a ∈ op.attributes)
    (h : dialect.operationAttributes op as m = .ok m') : Fills op m m' := by
  induction as generalizing m with
  | nil => cases h; exact .refl _
  | cons a as ih =>
    obtain ⟨m₁, hm₁, hrest⟩ := Error.bind_eq_ok h
    exact (operation_fills (has a (by simp)) hm₁).trans (ih (fun b hb => has b (by simp [hb])) hrest)

/-! ## Methods -/

theorem readAttributes_eq (i : Interface) (op : Operation) : dialect.readAttributes i op =
    i.parents.head?.elim .ok (fun p => dialect.interface p.1)
      (Metadata.new (op.configKey i.name) op.name op.returns (op.params.map Parameter.type)) >>= fun m =>
    dialect.interface i m >>= dialect.operationAttributes op op.attributes := by
  unfold Dialect.readAttributes
  cases i.parents <;> rfl

theorem readAttributes_fills (h : dialect.readAttributes i op = .ok m) :
    Fills op (Metadata.new (op.configKey i.name) op.name op.returns (op.params.map Parameter.type)) m := by
  rw [readAttributes_eq] at h
  obtain ⟨m₁, hm₁, h⟩ := Error.bind_eq_ok h
  obtain ⟨m₂, hm₂, h⟩ := Error.bind_eq_ok h
  have hparent : Fills op (Metadata.new (op.configKey i.name) op.name op.returns (op.params.map Parameter.type)) m₁ := by
    cases hp : i.parents.head? with
    | none => rw [hp] at hm₁; cases hm₁; exact .refl _
    | some p => rw [hp] at hm₁; exact interface_fills hm₁
  exact (hparent.trans (interface_fills hm₂)).trans (operationAttributes_fills (fun _ ha => ha) h)

/-- A method that is accepted is not ignored: it has a verb, its parameters were placed, and it has
no body beside form parameters. -/
theorem parseOperation_placed (h : dialect.parseOperation i op = .ok m) :
    ∃ m₀, dialect.readAttributes i op = .ok m₀ ∧ dialect.placeParameters 0 op.params m₀ = .ok m ∧
      m.template.method.isSome = true ∧ Dialect.checkBodyAndForm m = .ok () := by
  obtain ⟨m₀, hread, hrest⟩ := Error.bind_eq_ok h
  have hkept : m₀.ignored = false := by rw [(readAttributes_fills hread).frame]; rfl
  rw [hkept] at hrest
  simp only [Bool.false_eq_true, if_false] at hrest
  split at hrest
  · cases hrest
  · rename_i hmethod
    obtain ⟨m₁, hplaced, hrest⟩ := Error.bind_eq_ok hrest
    obtain ⟨⟨⟩, hcheck, hrest⟩ := Error.bind_eq_ok hrest
    obtain ⟨-, -, hend⟩ := Error.bind_eq_ok hrest
    cases hend
    refine ⟨m₀, hread, hplaced, ?_, hcheck⟩
    rw [placeParameters_template hplaced]
    exact Option.isSome_iff_ne_none.mpr (by simpa using hmethod)

theorem parseOperation_ok (h : dialect.parseOperation i op = .ok m) :
    ∃ m₀, Fills op (Metadata.new (op.configKey i.name) op.name op.returns (op.params.map Parameter.type)) m₀ ∧
      dialect.placeParameters 0 op.params m₀ = .ok m ∧ m.template.method.isSome = true ∧
      Dialect.checkBodyAndForm m = .ok () := by
  obtain ⟨m₀, hread, hrest⟩ := parseOperation_placed h
  exact ⟨m₀, readAttributes_fills hread, hrest⟩

theorem skeleton_of_reads (h : dialect.Reads i op m) : Skeleton op m.template := by
  obtain ⟨m₀, hfills, hplaced, -⟩ := parseOperation_ok h.read
  rw [placeParameters_template hplaced]
  exact hfills.skeleton .empty

/-! ## Interfaces with one method -/

def creates (i : Interface) (encoder : Encoder) (queries : QueryMapEncoder)
    (args : List Arg) (s : Session) (p : Metadata → RequestTemplate → Bool) : Bool :=
  match dialect.parse i with
  | .ok [m] =>
    match (Binding.create encoder queries m args).on s with
    | (.ok t, _) => p m t
    | _ => false
  | _ => false

theorem exists_of_creates {encoder : Encoder} {queries : QueryMapEncoder}
    {args : List Arg} {s : Session} {p : Metadata → RequestTemplate → Bool}
    (hop : Dialect.allOperations i = .ok [op]) (h : creates i encoder queries args s p = true) :
    ∃ m t s', dialect.Reads i op m ∧ (Binding.create encoder queries m args).on s = (.ok t, s') ∧
      p m t = true := by
  unfold creates at h
  split at h
  · rename_i m hparse
    split at h
    · rename_i t s' hcreate
      obtain ⟨op', hreads⟩ := Dialect.exists_reads hparse (List.mem_singleton_self m)
      obtain ⟨ops, hops, hmem, -⟩ := hreads.declared
      rw [hop] at hops
      cases hops
      obtain rfl := List.mem_singleton.mp hmem
      exact ⟨m, t, s', hreads, hcreate, h⟩
    · cases h
  · cases h

end DefaultDialect

end DeclarativeHttp
