import DeclarativeHttp.Proofs.Acceptance
import DeclarativeHttp.Proofs.Templates

/-!
# Which parameters reach the request

A parameter plays its part as the target, the body or a map, or by the placeholders
that it fills. Only the first one that claims a part gets it, save that of the
target; and a name that no part of the request holds is that of a form parameter,
which is left out where there is a template for the body (`reaches_iff`).
-/

namespace DeclarativeHttp

namespace IndexMap

variable {α : Type} {i j : Nat} {f : Option α → α} {a : α} {m : IndexMap α}

theorem exists_mem_alter (i : Nat) (f : Option α → α) (m : IndexMap α) :
    ∃ o, (i, f o) ∈ m.alter i f := by
  induction m with
  | nil => exact ⟨none, List.mem_cons_self⟩
  | cons q m ih =>
    rw [alter]
    split
    · exact ⟨_, List.mem_cons_self⟩
    · split
      · exact ⟨_, List.mem_cons_self⟩
      · obtain ⟨o, ho⟩ := ih
        exact ⟨o, List.mem_cons_of_mem _ ho⟩

theorem mem_alter_of_mem (h : (j, a) ∈ m) :
    (j, a) ∈ m.alter i f ∨ j = i ∧ (j, f (some a)) ∈ m.alter i f := by
  induction m with
  | nil => cases h
  | cons q m ih =>
    rw [alter]
    split
    · rename_i hi
      subst hi
      obtain rfl | h := List.mem_cons.mp h
      · exact .inr ⟨rfl, List.mem_cons_self⟩
      · exact .inl (List.mem_cons_of_mem _ h)
    · split
      · exact .inl (List.mem_cons_of_mem _ h)
      · obtain rfl | h := List.mem_cons.mp h
        · exact .inl List.mem_cons_self
        · exact (ih h).imp (List.mem_cons_of_mem _) (And.imp_right (List.mem_cons_of_mem _))

theorem exists_mem_of_contains (h : m.contains i = true) : ∃ a, (i, a) ∈ m := by
  obtain ⟨q, hq, hi⟩ := List.lookup_isSome_iff.mp h
  exact ⟨q.2, (eq_of_beq hi : i = q.1) ▸ hq⟩

theorem contains_of_mem (h : (i, a) ∈ m) : m.contains i = true :=
  List.lookup_isSome_iff.mpr ⟨_, h, beq_self_eq_true i⟩

end IndexMap

namespace Metadata

variable {m m' : Metadata} {p : Parameter} {k j : Nat} {n : String}

theorem mem_addOnce {name : String} {names : List String} :
    n ∈ addOnce name names ↔ n ∈ names ∨ n = name := by
  unfold addOnce
  split
  · rename_i hname
    have hname : name ∈ names := by simpa using hname
    exact ⟨.inl, fun h => h.elim id fun he => he ▸ hname⟩
  · simp

def Binds (m : Metadata) (k : Nat) (n : String) : Prop := ∃ names, (k, names) ∈ m.names ∧ n ∈ names

/-- The parameter is the target, the body or a map, or
what it is named for is in the template or the form. -/
def Reaches (m : Metadata) (k : Nat) : Prop :=
  m.urlIndex = some k ∨ m.bodyIndex = some k ∨ m.queryMapIndex = some k ∨
    m.headerMapIndex = some k ∨
    k ∈ m.names.map Prod.fst ∧
      ∀ q ∈ m.names, q.1 = k → ∀ n ∈ q.2, n ∈ m.template.placeholders ∨ m.bodyEncoding = .form

instance (m : Metadata) (k : Nat) : Decidable (m.Reaches k) := inferInstanceAs (Decidable (_ ∨ _))

structure Fits (ps : List Parameter) (m : Metadata) : Prop where
  url : ∀ k, m.urlIndex = some k → ∃ p, ps[k]? = some p ∧ p.type.isUri = true
  queryMap : ∀ k, m.queryMapIndex = some k → ∃ p, ps[k]? = some p ∧ p.isMapped = true
  headerMap : ∀ k, m.headerMapIndex = some k → ∃ p, ps[k]? = some p ∧ p.isMapped = true
  named : ∀ k n, m.Binds k n → ∃ p, ps[k]? = some p ∧ n ∈ p.paramNames
  rendered : ∀ k n, m.Binds k n → m.template.hasRequestPlaceholder n = true ∨ n ∈ m.formParams

theorem binds_alter {name : String}
    (h : ∃ names, (j, names) ∈ m.names.alter k (fun names => addOnce name (names.getD [])) ∧ n ∈ names) :
    m.Binds j n ∨ j = k ∧ n = name := by
  obtain ⟨names, hmem, hn⟩ := h
  obtain hmem | ⟨rfl, rfl | ⟨old, hold, rfl⟩⟩ := IndexMap.mem_alter hmem
  · exact .inl ⟨names, hmem, hn⟩
  · exact .inr ⟨rfl, by simpa [addOnce] using hn⟩
  · obtain hn | rfl := mem_addOnce.mp hn
    · exact .inl ⟨old, hold, hn⟩
    · exact .inr ⟨rfl, rfl⟩

theorem isProcessed_of_binds (h : m.Binds k n) : m.isProcessed k = true := by
  obtain ⟨names, hmem, -⟩ := h
  simp [isProcessed, IndexMap.contains_of_mem hmem]

theorem Indexed.isProcessed (h : m.Indexed k) (hignored : m.ignoredParams = []) :
    m.isProcessed k = false := by
  have hnames : m.names.contains k = false := by
    by_contra hc
    obtain ⟨names, hmem⟩ := IndexMap.exists_mem_of_contains (by simpa using hc)
    exact absurd (h.names k names hmem) (Nat.lt_irrefl k)
  have hurl : m.urlIndex ≠ some k := fun he => absurd (h.url k he) (Nat.lt_irrefl k)
  have hbody : m.bodyIndex ≠ some k := fun he => absurd (h.body k he) (Nat.lt_irrefl k)
  have hquery : m.queryMapIndex ≠ some k := fun he => absurd (h.queryMap k he) (Nat.lt_irrefl k)
  have hheader : m.headerMapIndex ≠ some k := fun he => absurd (h.headerMap k he) (Nat.lt_irrefl k)
  simp [Metadata.isProcessed, isIgnored, hnames, hignored, hurl, hbody, hquery, hheader]

end Metadata

open Metadata (Binds Fits Indexed)

namespace DefaultDialect

variable {i : Interface} {op : Operation} {m m' : Metadata} {p : Parameter} {ps : List Parameter}
  {k j : Nat} {n : String}

/-! ## What a change keeps -/

theorem Change.binds (h : Change p k m m') (hm : m.Binds j n) : m'.Binds j n := by
  obtain ⟨names, hmem, hn⟩ := hm
  obtain h | h := h
  · cases h with
    | warned => exact ⟨names, hmem, hn⟩
    | named name =>
      obtain hmem' | ⟨-, hmem'⟩ := IndexMap.mem_alter_of_mem (i := k)
        (f := fun names => Metadata.addOnce name (names.getD [])) hmem
      · exact ⟨names, hmem', hn⟩
      · exact ⟨_, hmem', Metadata.mem_addOnce.mpr (.inl hn)⟩
    | queryMap => exact ⟨names, hmem, hn⟩
    | headerMap => exact ⟨names, hmem, hn⟩
  · cases h <;> exact ⟨names, hmem, hn⟩

theorem Change.bodyIndex (h : Change p k m m') (hm : m.bodyIndex = some j) :
    m'.bodyIndex = some j := by
  obtain h | h := h
  · cases h <;> exact hm
  · cases h with
    | target => exact hm
    | kept => exact hm
    | body _ _ _ _ free => rw [hm] at free; cases free

theorem Change.queryMapIndex (h : Change p k m m') (hm : m.queryMapIndex = some j) :
    m'.queryMapIndex = some j := by
  obtain h | h := h
  · cases h with
    | queryMap _ _ free => rw [hm] at free; cases free
    | _ => exact hm
  · cases h <;> exact hm

theorem Change.headerMapIndex (h : Change p k m m') (hm : m.headerMapIndex = some j) :
    m'.headerMapIndex = some j := by
  obtain h | h := h
  · cases h with
    | headerMap _ free => rw [hm] at free; cases free
    | _ => exact hm
  · cases h <;> exact hm

theorem Change.fits (h : Change p k m m') (hp : ps[k]? = some p) (hm : m.Fits ps) : m'.Fits ps := by
  obtain h | h := h
  · cases h with
    | warned => exact ⟨hm.url, hm.queryMap, hm.headerMap, hm.named, hm.rendered⟩
    | named name expanders declared =>
      refine ⟨hm.url, hm.queryMap, hm.headerMap, fun j n hn => ?_, fun j n hn => ?_⟩
      · obtain hn | ⟨rfl, rfl⟩ := Metadata.binds_alter hn
        · exact hm.named j n hn
        · exact ⟨p, hp, declared⟩
      · -- a name is a form parameter if the request does not hold it, and stays one
        show m.template.hasRequestPlaceholder n = true ∨
          n ∈ if m.template.hasRequestPlaceholder name then m.formParams else Metadata.addOnce name m.formParams
        obtain hn | ⟨-, rfl⟩ := Metadata.binds_alter hn
        · refine (hm.rendered j n hn).imp_right fun hform => ?_
          split
          · exact hform
          · exact Metadata.mem_addOnce.mpr (.inl hform)
        · by_cases hplaceholder : m.template.hasRequestPlaceholder n = true
          · exact .inl hplaceholder
          · rw [if_neg hplaceholder]
            exact .inr (Metadata.mem_addOnce.mpr (.inr rfl))
    | queryMap _ declared =>
      exact ⟨hm.url, fun j hj => ⟨p, Option.some.inj hj ▸ hp, declared⟩, hm.headerMap, hm.named, hm.rendered⟩
    | headerMap declared =>
      exact ⟨hm.url, hm.queryMap, fun j hj => ⟨p, Option.some.inj hj ▸ hp, declared⟩, hm.named, hm.rendered⟩
  · cases h with
    | target isUri =>
      exact ⟨fun j hj => ⟨p, Option.some.inj hj ▸ hp, isUri⟩, hm.queryMap, hm.headerMap,
        hm.named, hm.rendered⟩
    | kept => exact hm
    | body => exact ⟨hm.url, hm.queryMap, hm.headerMap, hm.named, hm.rendered⟩

/-! ## What a parameter brings about -/

section
variable (h : dialect.readParameter p k m = .ok (false, m'))
include h

theorem binds_of_paramNames (hn : n ∈ p.paramNames) : m'.Binds k n := by
  obtain ⟨a, ha, hname⟩ := List.mem_filterMap.mp hn
  cases a with
  | param name expander =>
    cases hname
    refine readParameter_reaches h ha rfl (fun n₁ n₂ hread => ?_) fun _ _ hmarks hm =>
      Change.binds (.inl hmarks) hm
    obtain ⟨o, ho⟩ := IndexMap.exists_mem_alter k (fun names => Metadata.addOnce n (names.getD [])) n₁.names
    rw [parameterName_ok hread]
    exact ⟨_, ho, Metadata.mem_addOnce.mpr (.inr rfl)⟩
  | _ => cases hname

theorem mapped_of_isMapped (hmapped : p.isMapped = true) :
    m'.queryMapIndex = some k ∨ m'.headerMapIndex = some k := by
  obtain ⟨a, ha, hkind⟩ := List.any_eq_true.mp hmapped
  cases a with
  | queryMap encoded =>
    refine .inl (readParameter_reaches h ha rfl (fun n₁ n₂ hread => ?_) fun _ _ hmarks => Change.queryMapIndex (.inl hmarks))
    unfold queryMap at hread
    split at hread <;> cases hread
    rfl
  | headerMap =>
    refine .inr (readParameter_reaches h ha rfl (fun n₁ n₂ hread => ?_) fun _ _ hmarks => Change.headerMapIndex (.inl hmarks))
    unfold headerMap at hread
    split at hread <;> cases hread
    rfl
  | _ => cases hkind

end

theorem paramNames_of_bodyIndex (h : dialect.placeParameters 0 ps m = .ok m')
    (hm : m.bodyIndex = none) :
    ∀ k, m'.bodyIndex = some k → ∃ p, ps[k]? = some p ∧ p.paramNames = [] := by
  refine placeParameters_keeps (motive := fun x => ∀ k, x.bodyIndex = some k → ∃ p, ps[k]? = some p ∧ p.paramNames = []) h
    (fun k hk => by rw [hm] at hk; cases hk) fun j p hp n₁ n₂ hplace hn₁ k hk => ?_
  rw [Nat.zero_add] at hplace
  obtain ⟨n, hread, hplaces⟩ := placeParameter_ok hplace
  have hkept : n.bodyIndex = n₁.bodyIndex :=
    readParameter_keeps (motive := fun x => x.bodyIndex = n₁.bodyIndex) hread rfl fun _ _ hmarks hx => by
      cases hmarks <;> exact hx
  cases hplaces with
  | target => exact hn₁ k (hkept ▸ hk)
  | kept => exact hn₁ k (hkept ▸ hk)
  | body _ _ unused =>
    cases hk
    refine ⟨p, hp, List.eq_nil_iff_forall_not_mem.mpr fun name hname => ?_⟩
    rw [Metadata.isProcessed_of_binds (binds_of_paramNames hread hname)] at unused
    cases unused

theorem isProcessed_of_read (h : dialect.readParameter p k m = .ok (false, m'))
    (hm : m.isProcessed k = false) :
    m'.isProcessed k = p.isClaimed := by
  by_cases hnames : p.paramNames = []
  · by_cases hmapped : p.isMapped = true
    · rw [Parameter.isClaimed, hmapped, Bool.or_true]
      obtain hquery | hheader := mapped_of_isMapped h hmapped
      · simp [Metadata.isProcessed, hquery]
      · simp [Metadata.isProcessed, hheader]
    · have hunclaimed : p.isClaimed = false := by simp [Parameter.isClaimed, hnames, hmapped]
      rw [hunclaimed]
      refine readParameter_keeps (motive := fun x => x.isProcessed k = false) h hm fun n₁ n₂ hmarks hn₁ => ?_
      cases hmarks with
      | warned => exact hn₁
      | named _ _ declared => rw [hnames] at declared; cases declared
      | queryMap _ declared => exact absurd declared hmapped
      | headerMap declared => exact absurd declared hmapped
  · have hclaimed : p.isClaimed = true := by simp [Parameter.isClaimed, hnames]
    obtain ⟨name, hname⟩ := List.exists_mem_of_ne_nil _ hnames
    rw [hclaimed, Metadata.isProcessed_of_binds (binds_of_paramNames h hname)]

theorem bodyIndex_of_unclaimed (h : dialect.placeParameter p k m = .ok m')
    (hm : m.isProcessed k = false) (huri : p.type.isUri = false)
    (hoptions : p.type.isOptions = false) (hmapped : p.isMapped = false)
    (hnames : p.paramNames = []) : m'.bodyIndex = some k := by
  obtain ⟨n, hread, hplaces⟩ := placeParameter_ok h
  have hunused := isProcessed_of_read hread hm
  rw [show p.isClaimed = false by simp [Parameter.isClaimed, hnames, hmapped]] at hunused
  cases hplaces with
  | target isUri => rw [huri] at isUri; cases isUri
  | kept _ used => rw [hoptions, hunused] at used; simp at used
  | body => rfl

/-! ## Parameters of a method -/

section
variable {motive : Metadata → Prop} (h : dialect.placeParameters 0 ps m = .ok m')
  (hp : ps[k]? = some p)
include h hp

/-- What a parameter brings about where it is placed, and all changes keep, holds in the end. -/
theorem placed_reaches (hkeep : ∀ q j m₁ m₂, Change q j m₁ m₂ → motive m₁ → motive m₂)
    (hreach : ∀ m₁ m₂, dialect.placeParameters 0 (ps.take k) m = .ok m₁ → dialect.placeParameter p k m₁ = .ok m₂ →
      motive m₂) : motive m' := by
  obtain ⟨m₁, m₂, hbefore, hplace, hafter⟩ := placeParameters_at h hp
  rw [Nat.zero_add] at hplace
  exact placeParameters_changes hafter (hreach m₁ m₂ hbefore hplace) fun j q _ n₁ n₂ =>
    hkeep q _ n₁ n₂

theorem placed_binds (hn : n ∈ p.paramNames) : m'.Binds k n := by
  refine placed_reaches h hp (fun _ _ _ _ hchange => hchange.binds) fun m₁ m₂ _ hplace => ?_
  obtain ⟨n₁, hread, hplaces⟩ := placeParameter_ok hplace
  exact Change.binds (.inr hplaces) (binds_of_paramNames hread hn)

theorem placed_mapped (hmapped : p.isMapped = true) :
    m'.queryMapIndex = some k ∨ m'.headerMapIndex = some k := by
  refine placed_reaches (motive := fun x => x.queryMapIndex = some k ∨ x.headerMapIndex = some k) h hp
    (fun _ _ _ _ hchange => Or.imp hchange.queryMapIndex hchange.headerMapIndex) fun m₁ m₂ _ hplace => ?_
  obtain ⟨n₁, hread, hplaces⟩ := placeParameter_ok hplace
  exact (mapped_of_isMapped hread hmapped).imp (Change.queryMapIndex (.inr hplaces)) (Change.headerMapIndex (.inr hplaces))

theorem placed_body (hm : m.Indexed k) (hignored : m.ignoredParams = [])
    (huri : p.type.isUri = false) (hoptions : p.type.isOptions = false)
    (hmapped : p.isMapped = false) (hnames : p.paramNames = []) :
    m'.bodyIndex = some k := by
  refine placed_reaches h hp (fun _ _ _ _ hchange => hchange.bodyIndex) fun m₁ m₂ hbefore hplace => ?_
  have hlength : (ps.take k).length = k := by
    rw [List.length_take, Nat.min_eq_left (Nat.le_of_lt (List.getElem?_eq_some_iff.mp hp).1)]
  -- what stands before the parameter has put only smaller indexes into the metadata
  have hindexed := indexed_of_placed hbefore (hlength.symm ▸ hm)
  rw [hlength] at hindexed
  have hkept : m₁.ignoredParams = [] :=
    placeParameters_changes (motive := fun x => x.ignoredParams = []) hbefore hignored fun _ _ _ _ _ hchange hx =>
      hchange.ignoredParams.trans hx
  exact bodyIndex_of_unclaimed hplace (hindexed.isProcessed hkept) huri hoptions hmapped hnames

end

theorem fits_placed (h : dialect.placeParameters 0 ps m = .ok m') (hm : m.Fits ps) :
    m'.Fits ps := by
  refine placeParameters_changes h hm fun j p hp _ _ hchange hx => ?_
  rw [Nat.zero_add] at hchange
  exact hchange.fits hp hx

theorem Fills.fits (h : Fills op (Metadata.new (op.configKey i.name) op.name op.returns (op.params.map Parameter.type)) m) :
    m.Fits op.params := by
  rw [h.frame]
  refine ⟨?_, ?_, ?_, ?_, ?_⟩
  · intro k hk; cases hk
  · intro k hk; cases hk
  · intro k hk; cases hk
  · rintro k n ⟨names, hmem, -⟩; cases hmem
  · rintro k n ⟨names, hmem, -⟩; cases hmem

end DefaultDialect

section
variable {i : Interface} {op : Operation} {m : Metadata} {p : Parameter} {k : Nat}

section
variable (hreads : DefaultDialect.dialect.Reads i op m) (hp : op.params[k]? = some p)
include hreads hp

theorem asks_of_reaches (h : m.Reaches k) : p.type.isUri = true ∨ p.isMapped = true ∨
    ∀ n ∈ p.paramNames, n ∈ m.template.placeholders ∨ m.template.bodyTemplate? = none := by
  obtain ⟨m₀, hfills, hplaced, -, -⟩ := DefaultDialect.parseOperation_ok hreads.read
  have hfits := DefaultDialect.fits_placed hplaced hfills.fits
  have hsame : ∀ {q}, op.params[k]? = some q → q = p := fun hq => Option.some.inj (hq.symm.trans hp)
  obtain hurl | hbody | hquery | hheader | ⟨-, hnames⟩ := h
  · obtain ⟨q, hq, huri⟩ := hfits.url k hurl
    exact .inl (hsame hq ▸ huri)
  · have hfree : m₀.bodyIndex = none := by rw [hfills.frame]; rfl
    obtain ⟨q, hq, hunnamed⟩ := DefaultDialect.paramNames_of_bodyIndex hplaced hfree k hbody
    obtain rfl := hsame hq
    exact .inr (.inr fun n hn => by rw [hunnamed] at hn; cases hn)
  · obtain ⟨q, hq, hmapped⟩ := hfits.queryMap k hquery
    exact .inr (.inl (hsame hq ▸ hmapped))
  · obtain ⟨q, hq, hmapped⟩ := hfits.headerMap k hheader
    exact .inr (.inl (hsame hq ▸ hmapped))
  · refine .inr (.inr fun n hn => ?_)
    obtain ⟨names, hmem, hn⟩ := DefaultDialect.placed_binds hplaced hp hn
    exact (hnames _ hmem rfl n hn).imp_right fun hform => (m.bodyEncoding_form.mp hform).2

theorem reaches_of_uri (huri : p.type.isUri = true)
    (hlast : ∀ l q, k < l → op.params[l]? = some q → q.type.isUri = false) : m.Reaches k := by
  obtain ⟨m₀, -, hplaced, -, -⟩ := DefaultDialect.parseOperation_ok hreads.read
  have hurl := DefaultDialect.urlIndex_of_last hplaced hp huri hlast
  rw [Nat.zero_add] at hurl
  exact .inl hurl

theorem reaches_of_mapped (hmapped : p.isMapped = true) : m.Reaches k := by
  obtain ⟨m₀, -, hplaced, -, -⟩ := DefaultDialect.parseOperation_ok hreads.read
  obtain hquery | hheader := DefaultDialect.placed_mapped hplaced hp hmapped
  · exact .inr (.inr (.inl hquery))
  · exact .inr (.inr (.inr (.inl hheader)))

theorem reaches_of_unclaimed (huri : p.type.isUri = false) (hoptions : p.type.isOptions = false)
    (hmapped : p.isMapped = false) (hnames : p.paramNames = []) : m.Reaches k := by
  obtain ⟨m₀, hfills, hplaced, -, -⟩ := DefaultDialect.parseOperation_ok hreads.read
  have hindexed : m₀.Indexed k := hfills.indexed (DefaultDialect.indexed_new ..)
  have hignored : m₀.ignoredParams = [] := by rw [hfills.frame]; rfl
  exact .inr (.inl (DefaultDialect.placed_body hplaced hp hindexed hignored huri hoptions hmapped hnames))

theorem reaches_of_names (hnames : p.paramNames ≠ [])
    (hrendered : ∀ n ∈ p.paramNames, n ∈ m.template.placeholders ∨ m.template.bodyTemplate? = none) : m.Reaches k := by
  obtain ⟨m₀, hfills, hplaced, -, -⟩ := DefaultDialect.parseOperation_ok hreads.read
  have hfits := DefaultDialect.fits_placed hplaced hfills.fits
  obtain ⟨name, hname⟩ := List.exists_mem_of_ne_nil _ hnames
  obtain ⟨names, hmem, -⟩ := DefaultDialect.placed_binds hplaced hp hname
  refine .inr (.inr (.inr (.inr ⟨List.mem_map_of_mem hmem, ?_⟩)))
  -- the same index may stand there with other names, and those too are names of the parameter
  rintro ⟨_, names'⟩ hmem' rfl n hn
  obtain ⟨q, hq, hdeclared⟩ := hfits.named _ n ⟨names', hmem', hn⟩
  obtain rfl : q = p := Option.some.inj (hq.symm.trans hp)
  obtain hplaceholder | hnone := hrendered n hdeclared
  · exact .inl hplaceholder
  · obtain hrequest | hform := hfits.rendered _ n ⟨names', hmem', hn⟩
    · exact .inl (RequestTemplate.mem_placeholders.mpr (.inl hrequest))
    · exact .inr (m.bodyEncoding_form.mpr ⟨List.ne_nil_of_mem hform, hnone⟩)

end

/-- A parameter reaches the request by its type or as a map, or else just
if all its names are placeholders of the template or there is no template
for the body. (Of several that are URIs the last one is looked at.) -/
theorem reaches_iff (hreads : DefaultDialect.dialect.Reads i op m) (hp : op.params[k]? = some p)
    (hoptions : p.type.isOptions = false)
    (hlast : p.type.isUri = true → ∀ l q, k < l → op.params[l]? = some q → q.type.isUri = false) :
    m.Reaches k ↔ p.type.isUri = true ∨ p.isMapped = true ∨
      ∀ n ∈ p.paramNames, n ∈ m.template.placeholders ∨ m.template.bodyTemplate? = none := by
  refine ⟨asks_of_reaches hreads hp, fun hasks => ?_⟩
  by_cases huri : p.type.isUri = true
  · exact reaches_of_uri hreads hp huri (hlast huri)
  by_cases hmapped : p.isMapped = true
  · exact reaches_of_mapped hreads hp hmapped
  by_cases hnames : p.paramNames = []
  · exact reaches_of_unclaimed hreads hp (by simpa using huri) hoptions (by simpa using hmapped) hnames
  · exact reaches_of_names hreads hp hnames ((hasks.resolve_left huri).resolve_left hmapped)

/-- One name is in the path and the other in the body; the map comes between them. -/
theorem reaches_iff_rename :
    let id : Parameter := ⟨none, .simple "String", [.param "id" none]⟩
    let more : Parameter := ⟨none, .named "Map" [.simple "String", .simple "String"], [.queryMap true]⟩
    let name : Parameter := ⟨none, .simple "String", [.param "name" none]⟩
    let op : Operation := ⟨"rename", .abstract,
      [.requestLine "PUT /users/{id}" true .exploded, .body "name={name}"], [id, more, name], .void⟩
    ∃ m, DefaultDialect.dialect.Reads (.mk "Api" [] [] [] [op]) op m ∧ op.params[2]? = some name ∧
      name.type.isOptions = false ∧ name.type.isUri = false ∧
      m.template.bodyTemplate?.isSome = true ∧ m.Reaches 2 := by
  intro id more name op
  obtain ⟨m, t, s', hreads, -, hm⟩ := DefaultDialect.exists_of_creates
    (rfl : Dialect.allOperations (.mk "Api" [] [] [] [op]) = .ok [op])
    (show DefaultDialect.creates _ .plain .members [.value (.str "7"), .absent, .value (.str "Ada")]
      ⟨0, 0, [], 0, fun _ => false, fun n => n, []⟩
      (fun m _ => m.template.placeholders.contains "name" && m.template.bodyTemplate?.isSome) =
        true by decide +kernel)
  obtain ⟨hplaceholder, hbody⟩ := Bool.and_eq_true_iff.mp hm
  have hnames : ∀ n ∈ name.paramNames, n ∈ m.template.placeholders ∨
      m.template.bodyTemplate? = none := by
    have hname : name.paramNames = ["name"] := rfl
    rw [hname]
    exact List.forall_mem_singleton.mpr (.inl (by simpa using hplaceholder))
  exact ⟨m, hreads, rfl, rfl, rfl, hbody,
    (reaches_iff hreads (rfl : op.params[2]? = some name) rfl fun huri => by cases huri).mpr (.inr (.inr hnames))⟩

/-- A name that the template for the body lacks is not sent,
whatever the argument; nor is the first of two URIs. -/
theorem arguments_left_out :
    let user : Parameter := ⟨none, .simple "String", [.param "user" none]⟩
    let password : Parameter := ⟨none, .simple "String", [.param "password" none]⟩
    let uri : Parameter := ⟨none, .simple "Uri", []⟩
    let login : Operation :=
  ⟨"login", .abstract, [.requestLine "POST /login" true .exploded, .body "user={user}"],
      [user, password], .void⟩
    let get : Operation := ⟨"get", .abstract, [.requestLine "GET /" true .exploded], [uri, uri], .void⟩
    let s : Session := ⟨0, 0, [], 0, fun _ => false, fun n => n, []⟩
    (∃ m t s', DefaultDialect.dialect.Reads (.mk "Api" [] [] [] [login]) login m ∧ login.params[1]? = some password ∧
      (Binding.create .plain .members m [.value (.str "ada"), .value (.str "secret")]).on s = (.ok t, s') ∧
      t.body? = some (Utf8.ofString "user=ada") ∧ t.url = "/login".toList ∧ t.headers = [] ∧
      ¬ m.Reaches 1) ∧
    ∃ m t s', DefaultDialect.dialect.Reads (.mk "Api" [] [] [] [get]) get m ∧
      get.params[0]? = some uri ∧
      (Binding.create .plain .members m [.value (.str "http://a.example"), .value (.str "http://b.example")]).on s =
        (.ok t, s') ∧ t.url = "http://b.example/".toList ∧ ¬ m.Reaches 0 := by
  intro user password uri login get s
  obtain ⟨m, t, s', hreads, hcreate, ht⟩ := DefaultDialect.exists_of_creates
    (rfl : Dialect.allOperations (.mk "Api" [] [] [] [login]) = .ok [login])
    (show DefaultDialect.creates _ .plain .members [.value (.str "ada"), .value (.str "secret")] s
      (fun m t => decide (t.body? = some (Utf8.ofString "user=ada") ∧ t.url = "/login".toList ∧ t.headers = [] ∧
        ¬ m.Reaches 1)) = true by decide +kernel)
  obtain ⟨m₂, t₂, s₂, hreads₂, hcreate₂, ht₂⟩ := DefaultDialect.exists_of_creates
    (rfl : Dialect.allOperations (.mk "Api" [] [] [] [get]) = .ok [get])
    (show DefaultDialect.creates _ .plain .members [.value (.str "http://a.example"), .value (.str "http://b.example")] s
      (fun m t => decide (t.url = "http://b.example/".toList ∧ ¬ m.Reaches 0)) =
        true by decide +kernel)
  exact ⟨⟨m, t, s', hreads, rfl, hcreate, of_decide_eq_true ht⟩, m₂, t₂, s₂, hreads₂, rfl, hcreate₂,
    of_decide_eq_true ht₂⟩

end

end DeclarativeHttp
