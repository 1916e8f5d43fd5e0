import DeclarativeHttp.Contract.Default
import DeclarativeHttp.Proofs.Run

/-!
# Placing parameters

What the default dialect makes of the parameters of a method, one after the other. An attribute of a
parameter changes the metadata in one of the ways of `Marks`, and in the end the parameter gets its
place (`Places`). What all these changes keep is kept when all parameters are placed
(`placeParameters_keeps`); what a single parameter brings about is looked for where it is placed
itself (`placeParameters_at`).
-/

namespace DeclarativeHttp

namespace RuleTable

variable {motive : Metadata → Prop} {steps : List Step} {m m' : Metadata}

theorem run_keeps (h : run steps m = .ok m') (hm : motive m)
    (hstep : ∀ f ∈ steps, ∀ m m', f m = .ok m' → motive m → motive m') : motive m' := by
  induction steps generalizing m with
  | nil => cases h; exact hm
  | cons f fs ih =>
    obtain ⟨m₁, hm₁, hrest⟩ := Error.bind_eq_ok h
    exact ih hrest (hstep f List.mem_cons_self m m₁ hm₁ hm) fun g hg =>
      hstep g (List.mem_cons_of_mem f hg)

/-- What one of the steps brings about and all of them keep holds in the end. -/
theorem run_reaches {f : Step} (h : run steps m = .ok m') (hf : f ∈ steps)
    (hreach : ∀ m m', f m = .ok m' → motive m')
    (hstep : ∀ f ∈ steps, ∀ m m', f m = .ok m' → motive m → motive m') : motive m' := by
  induction steps generalizing m with
  | nil => cases hf
  | cons g gs ih =>
    obtain ⟨m₁, hm₁, hrest⟩ := Error.bind_eq_ok h
    have hlater := fun e he => hstep e (List.mem_cons_of_mem g he)
    obtain rfl | hf := List.mem_cons.mp hf
    · exact run_keeps hrest (hreach m m₁ hm₁) hlater
    · exact ih hrest hf hlater

end RuleTable

namespace IndexMap

variable {α : Type} {i j : Nat} {f : Option α → α} {a : α} {m : IndexMap α}

theorem mem_alter (h : (j, a) ∈ m.alter i f) :
    (j, a) ∈ m ∨ j = i ∧ (a = f none ∨ ∃ b, (i, b) ∈ m ∧ a = f (some b)) := by
  induction m with
  | nil =>
    cases List.mem_singleton.mp h
    exact .inr ⟨rfl, .inl rfl⟩
  | cons q m ih =>
    obtain ⟨l, b⟩ := q
    rw [alter] at h
    split at h
    · rename_i hl
      subst hl
      obtain h | h := List.mem_cons.mp h
      · cases h
        exact .inr ⟨rfl, .inr ⟨b, List.mem_cons_self, rfl⟩⟩
      · exact .inl (List.mem_cons_of_mem _ h)
    · split at h
      · obtain h | h := List.mem_cons.mp h
        · cases h
          exact .inr ⟨rfl, .inl rfl⟩
        · exact .inl h
      · obtain h | h := List.mem_cons.mp h
        · exact .inl (h ▸ List.mem_cons_self)
        · obtain h | ⟨rfl, h | ⟨c, hc, rfl⟩⟩ := ih h
          · exact .inl (List.mem_cons_of_mem _ h)
          · exact .inr ⟨rfl, .inl h⟩
          · exact .inr ⟨rfl, .inr ⟨c, List.mem_cons_of_mem _ hc, rfl⟩⟩

end IndexMap

namespace Parameter

def paramNames (p : Parameter) : List String :=
  p.attributes.filterMap fun
    | .param name _ => some name
    | _ => none

def isMapped (p : Parameter) : Bool :=
  p.attributes.any fun
    | .queryMap _ | .headerMap => true
    | _ => false

def isClaimed (p : Parameter) : Bool := !p.paramNames.isEmpty || p.isMapped

end Parameter

namespace DefaultDialect

variable {m m' : Metadata} {p : Parameter} {k : Nat} {motive : Metadata → Prop}

/-! ## Attributes of parameters -/

inductive Marks (p : Parameter) (k : Nat) (m : Metadata) : Metadata → Prop where
  | warned (text : String) : Marks p k m (m.warn text)
  | named (name : String) (expanders : IndexMap Expander) (declared : name ∈ p.paramNames) :
    Marks p k m { m with
      names := m.names.alter k fun names => Metadata.addOnce name (names.getD []), expanders
      formParams := if m.template.hasRequestPlaceholder name then m.formParams else Metadata.addOnce name m.formParams }
  | queryMap (encoded : Bool) (declared : p.isMapped = true) (free : m.queryMapIndex = none) :
    Marks p k m (m.setQueryMapIndex k encoded)
  | headerMap (declared : p.isMapped = true) (free : m.headerMapIndex = none) :
    Marks p k m (m.setHeaderMapIndex k)

theorem parameterName_ok {name : String} {expander : Option Expander}
    (h : parameterName name expander k m = .ok m') :
    m' = { m with
      names := m.names.alter k fun names => Metadata.addOnce name (names.getD []),
      expanders := m'.expanders
      formParams := if m.template.hasRequestPlaceholder name then m.formParams
        else Metadata.addOnce name m.formParams } := by
  unfold parameterName at h
  split at h
  · cases h
  · by_cases hplaceholder : m.template.hasRequestPlaceholder name = true <;>
      cases expander <;>
      simp only [Metadata.nameParam, Metadata.setExpander, Metadata.addFormParam, hplaceholder, if_true,
        Bool.false_eq_true, if_false] at h ⊢ <;>
      (cases h; rfl)

theorem marks_of_rule {a : Attribute} {f : Step} (ha : a ∈ p.attributes)
    (hf : parameterRule a k = some f) (h : f m = .ok m') : Marks p k m m' := by
  cases a with
  | param name expander =>
    cases hf
    rw [parameterName_ok h]
    exact .named name _ (List.mem_filterMap.mpr ⟨_, ha, rfl⟩)
  | queryMap encoded =>
    cases hf
    unfold queryMap at h
    split at h <;> cases h
    rename_i hfree
    exact .queryMap encoded (List.any_eq_true.mpr ⟨_, ha, rfl⟩) (by simpa using hfree)
  | headerMap =>
    cases hf
    unfold headerMap at h
    split at h <;> cases h
    rename_i hfree
    exact .headerMap (List.any_eq_true.mpr ⟨_, ha, rfl⟩) (by simpa using hfree)
  | requestLine _ _ _ => cases hf
  | headers _ => cases hf
  | body _ => cases hf
  | other _ _ => cases hf

theorem parameterSteps_eq (p : Parameter) (k : Nat) :
    table.parameterSteps p k = p.attributes.filterMap fun a => parameterRule a k := by
  refine congrArg (List.filterMap · p.attributes) (funext fun a => ?_)
  show [parameterRule].findSome? (fun r => r a k) = parameterRule a k
  rw [List.findSome?_cons]
  cases parameterRule a k <;> rfl

theorem mem_parameterSteps {f : Step} : f ∈ table.parameterSteps p k ↔ ∃ a ∈ p.attributes,
    parameterRule a k = some f := by
  rw [parameterSteps_eq, List.mem_filterMap]

/-- Attributes are obeyed in their order, and they bind a parameter only by what they do; if there
are some and no rule takes any, there is a warning. -/
theorem readParameter_eq (p : Parameter) (k : Nat) : ∃ finish : Metadata → Metadata,
    (∀ m, finish m = m ∨ ∃ text, finish m = m.warn text) ∧
      ∀ m, dialect.readParameter p k m =
        (RuleTable.run (table.parameterSteps p k) m).map fun m₁ => (false, finish m₁) := by
  by_cases hnone : p.attributes = []
  · refine ⟨id, fun m => .inl rfl, fun m => ?_⟩
    rw [Dialect.readParameter, parameterSteps_eq, hnone]
    rfl
  · by_cases hsteps : table.parameterSteps p k = []
    · refine ⟨fun m => m.warn (table.parameterWarning p k), fun m => .inr ⟨_, rfl⟩, fun m => ?_⟩
      simp [Dialect.readParameter, dialect, RuleTable.dialect, hnone, hsteps, RuleTable.run, Except.map]
    · refine ⟨id, fun m => .inl rfl, fun m => ?_⟩
      simp [Dialect.readParameter, dialect, RuleTable.dialect, hnone, hsteps]

theorem readParameter_run {bound : Bool} (h : dialect.readParameter p k m = .ok (bound, m')) :
    bound = false ∧ ∃ m₁, RuleTable.run (table.parameterSteps p k) m = .ok m₁ ∧
    (m' = m₁ ∨ ∃ text, m' = m₁.warn text) := by
  obtain ⟨finish, hfinish, heq⟩ := readParameter_eq p k
  rw [heq] at h
  cases hrun : RuleTable.run (table.parameterSteps p k) m with
  | error e => rw [hrun] at h; cases h
  | ok m₁ =>
    rw [hrun] at h
    cases h
    exact ⟨rfl, m₁, rfl, hfinish m₁⟩

section
variable {bound : Bool} (h : dialect.readParameter p k m = .ok (bound, m'))
include h

theorem readParameter_keeps (hm : motive m)
    (hstep : ∀ m m', Marks p k m m' → motive m → motive m') : motive m' := by
  obtain ⟨-, m₁, hrun, hend⟩ := readParameter_run h
  have hm₁ : motive m₁ := RuleTable.run_keeps hrun hm fun f hf n n' hn => by
    obtain ⟨a, ha, hrule⟩ := mem_parameterSteps.mp hf
    exact hstep n n' (marks_of_rule ha hrule hn)
  obtain rfl | ⟨text, rfl⟩ := hend
  · exact hm₁
  · exact hstep _ _ (.warned text) hm₁

theorem readParameter_reaches {a : Attribute} {f : Step} (ha : a ∈ p.attributes)
    (hf : parameterRule a k = some f) (hreach : ∀ m m', f m = .ok m' → motive m')
    (hstep : ∀ m m', Marks p k m m' → motive m → motive m') : motive m' := by
  obtain ⟨-, m₁, hrun, hend⟩ := readParameter_run h
  have hm₁ : motive m₁ := RuleTable.run_reaches hrun (mem_parameterSteps.mpr ⟨a, ha, hf⟩) hreach fun g hg n n' hn => by
    obtain ⟨b, hb, hrule⟩ := mem_parameterSteps.mp hg
    exact hstep n n' (marks_of_rule hb hrule hn)
  obtain rfl | ⟨text, rfl⟩ := hend
  · exact hm₁
  · exact hstep _ _ (.warned text) hm₁

end

/-! ## Places -/

/-- Which place a parameter gets when its attributes were read: it is the target, it is the body, or
it has a place already and needs none. -/
inductive Places (p : Parameter) (k : Nat) (m : Metadata) : Metadata → Prop where
  | target (isUri : p.type.isUri = true) : Places p k m (m.setUrlIndex k)
  | kept (notUri : p.type.isUri = false)
    (used : p.type.isOptions = true ∨ m.isProcessed k = true) : Places p k m m
  | body (notUri : p.type.isUri = false) (notOptions : p.type.isOptions = false)
    (unused : m.isProcessed k = false)
    (noForm : m.formParams = []) (free : m.bodyIndex = none) : Places p k m (m.setBodyIndex k p.type)

theorem assignParameter_ok (h : Dialect.assignParameter false p k m = .ok m') :
    Places p k m m' := by
  unfold Dialect.assignParameter at h
  by_cases huri : p.type.isUri = true
  · rw [if_pos huri] at h
    cases h
    exact .target huri
  · rw [if_neg huri] at h
    have huri : p.type.isUri = false := by simpa using huri
    by_cases hoptions : p.type.isOptions = true
    · rw [if_pos (by simp [hoptions])] at h
      cases h
      exact .kept huri (.inl hoptions)
    · rw [if_neg (by simp [hoptions])] at h
      by_cases hused : m.isProcessed k = true
      · rw [if_pos hused] at h
        cases hcheck : Dialect.checkBodyAndForm m with
        | error e => rw [hcheck] at h; cases h
        | ok _ => rw [hcheck] at h; cases h; exact .kept huri (.inr hused)
      · rw [if_neg hused] at h
        split at h
        · cases h
        · rename_i hform
          split at h <;> cases h
          rename_i hbody
          exact .body huri (by simpa using hoptions) (by simpa using hused) (by simpa using hform) (by simpa using hbody)

theorem placeParameter_ok (h : dialect.placeParameter p k m = .ok m') :
    ∃ m₁, dialect.readParameter p k m = .ok (false, m₁) ∧ Places p k m₁ m' := by
  obtain ⟨⟨bound, m₁⟩, hread, hassign⟩ := Error.bind_eq_ok h
  obtain ⟨rfl, -⟩ := readParameter_run hread
  exact ⟨m₁, hread, assignParameter_ok hassign⟩

def Change (p : Parameter) (k : Nat) (m m' : Metadata) : Prop := Marks p k m m' ∨ Places p k m m'

theorem Change.template (h : Change p k m m') : m'.template = m.template := by
  obtain h | h := h <;> cases h <;> rfl

theorem Change.paramTypes (h : Change p k m m') : m'.paramTypes = m.paramTypes := by
  obtain h | h := h <;> cases h <;> rfl

theorem Change.ignoredParams (h : Change p k m m') : m'.ignoredParams = m.ignoredParams := by
  obtain h | h := h <;> cases h <;> rfl

theorem Change.urlIndex (h : Change p k m m') (hp : p.type.isUri = false) :
    m'.urlIndex = m.urlIndex := by
  obtain h | h := h
  · cases h <;> rfl
  · cases h with
    | target huri => rw [hp] at huri; cases huri
    | kept => rfl
    | body => rfl

theorem placeParameter_keeps (h : dialect.placeParameter p k m = .ok m') (hm : motive m)
    (hstep : ∀ m m', Change p k m m' → motive m → motive m') : motive m' := by
  obtain ⟨m₁, hread, hplace⟩ := placeParameter_ok h
  exact hstep _ _ (.inr hplace) (readParameter_keeps hread hm fun n n' hn => hstep n n' (.inl hn))

/-! ## All parameters -/

variable {ps : List Parameter}

theorem placeParameters_keeps (h : dialect.placeParameters k ps m = .ok m') (hm : motive m)
    (hstep : ∀ j p, ps[j]? = some p → ∀ m m', dialect.placeParameter p (k + j) m = .ok m' →
      motive m → motive m') :
    motive m' := by
  induction ps generalizing k m with
  | nil => cases h; exact hm
  | cons p ps ih =>
    obtain ⟨m₁, hm₁, hrest⟩ := Error.bind_eq_ok h
    refine ih hrest (hstep 0 p rfl m m₁ hm₁ hm) fun j q hq n n' hn => ?_
    have hindex : k + 1 + j = k + (j + 1) := by omega
    exact hstep (j + 1) q hq n n' (hindex ▸ hn)

theorem placeParameters_changes (h : dialect.placeParameters k ps m = .ok m') (hm : motive m)
    (hstep : ∀ j p, ps[j]? = some p → ∀ m m', Change p (k + j) m m' → motive m → motive m') :
    motive m' :=
  placeParameters_keeps h hm fun j p hp _ _ hplace hm => placeParameter_keeps hplace hm (hstep j p hp)

theorem placeParameters_at {j : Nat} (h : dialect.placeParameters k ps m = .ok m')
    (hp : ps[j]? = some p) :
    ∃ m₁ m₂, dialect.placeParameters k (ps.take j) m = .ok m₁ ∧
      dialect.placeParameter p (k + j) m₁ = .ok m₂ ∧
      dialect.placeParameters (k + j + 1) (ps.drop (j + 1)) m₂ = .ok m' := by
  induction ps generalizing k j m with
  | nil => cases hp
  | cons q ps ih =>
    obtain ⟨m₁, hm₁, hrest⟩ := Error.bind_eq_ok h
    cases j with
    | zero =>
      cases hp
      exact ⟨m, m₁, rfl, hm₁, hrest⟩
    | succ j =>
      obtain ⟨n, n', hbefore, hplace, hafter⟩ := ih hrest hp
      have hindex : k + 1 + j = k + (j + 1) := by omega
      rw [hindex] at hplace hafter
      refine ⟨n, n', ?_, hplace, hafter⟩
      rw [List.take_succ_cons]
      exact (congrArg (· >>= dialect.placeParameters (k + 1) (ps.take j)) hm₁).trans hbefore

theorem placeParameters_template (h : dialect.placeParameters k ps m = .ok m') :
    m'.template = m.template :=
  placeParameters_changes (motive := fun n => n.template = m.template) h rfl fun _ _ _ _ _ hchange hn =>
    hchange.template.trans hn

theorem placeParameters_paramTypes (h : dialect.placeParameters k ps m = .ok m') :
    m'.paramTypes = m.paramTypes :=
  placeParameters_changes (motive := fun n => n.paramTypes = m.paramTypes) h rfl fun _ _ _ _ _ hchange hn =>
    hchange.paramTypes.trans hn

theorem placeParameters_urlIndex (h : dialect.placeParameters k ps m = .ok m')
    (hps : ∀ p ∈ ps, p.type.isUri = false) :
    m'.urlIndex = m.urlIndex :=
  placeParameters_changes (motive := fun n => n.urlIndex = m.urlIndex) h rfl fun _ _ hp _ _ hchange hn =>
    (hchange.urlIndex (hps _ (List.mem_of_getElem? hp))).trans hn

theorem urlIndex_of_last {j : Nat} (h : dialect.placeParameters k ps m = .ok m')
    (hp : ps[j]? = some p) (huri : p.type.isUri = true)
    (hlast : ∀ l q, j < l → ps[l]? = some q → q.type.isUri = false) :
    m'.urlIndex = some (k + j) := by
  obtain ⟨m₁, m₂, -, hplace, hafter⟩ := placeParameters_at h hp
  have hlater : ∀ q ∈ ps.drop (j + 1), q.type.isUri = false := by
    intro q hq
    obtain ⟨l, hl⟩ := List.mem_iff_getElem?.mp hq
    rw [List.getElem?_drop] at hl
    exact hlast _ q (by omega) hl
  rw [placeParameters_urlIndex hafter hlater]
  obtain ⟨n, -, hplaces⟩ := placeParameter_ok hplace
  cases hplaces with
  | target => rfl
  | kept notUri => rw [huri] at notUri; cases notUri
  | body notUri => rw [huri] at notUri; cases notUri

end DefaultDialect

end DeclarativeHttp
