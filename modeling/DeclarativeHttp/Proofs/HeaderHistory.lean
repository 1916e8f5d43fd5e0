import DeclarativeHttp.Http.Headers
import DeclarativeHttp.Proofs.Built
import Mathlib.Data.List.DropRight

/-!
# Headers as an ordered map

Headers come about by a history of changes. What a name has at its end can be told from the changes
of that name alone, in whatever case they spell it: nothing before its last removal counts, and of
the values nothing before the last insertion after that. The names stand in the order in which they
were added since (`changed_eq_recorded`).
-/

namespace DeclarativeHttp

/-! ## Names with distinct keys -/

namespace Multimap

variable {α κ : Type} [DecidableEq κ] {key : String → κ} {m : Multimap α} {name n : String}
  {values : List α}

theorem set_of_not_mem (h : key name ∉ m.map fun p => key p.1) :
    set key name values m = m ++ [(name, values)] := by
  induction m with
  | nil => rfl
  | cons p m ih =>
    rw [List.map_cons, List.mem_cons, not_or] at h
    rw [set, if_neg (Ne.symm h.1), ih h.2, List.cons_append]

theorem set_of_mem (hm : m.Distinct key) (h : key name ∈ m.map fun p => key p.1) :
    set key name values m = m.map fun p => if key p.1 = key name then (p.1, values) else p := by
  induction m with
  | nil => cases h
  | cons p m ih =>
    rw [set, List.map_cons]
    by_cases hname : key p.1 = key name
    · rw [if_pos hname, if_pos hname, List.map_congr_left fun q hq => if_neg (hm.key_ne hname q hq), List.map_id']
    · rw [List.map_cons, List.mem_cons] at h
      rw [if_neg hname, if_neg hname, ih (List.nodup_cons.mp hm).2 (h.resolve_left fun he => hname he.symm)]

theorem erase_eq_filter (hm : m.Distinct key) :
    erase key name m = m.filter fun p => key p.1 ≠ key name := by
  induction m with
  | nil => rfl
  | cons p m ih =>
    rw [erase, List.filter_cons]
    by_cases hname : key p.1 = key name
    · rw [if_pos hname, if_neg (by simpa using hname), List.filter_eq_self.mpr (by simpa using hm.key_ne hname)]
    · rw [if_neg hname, if_pos (by simpa using hname), ih (List.nodup_cons.mp hm).2]

section

variable {ks : List κ} {entry : κ → String × List α} (h : ∀ k ∈ ks, key (entry k).1 = k)
include h

omit [DecidableEq κ] in
theorem keys_map : (ks.map entry).map (fun p => key p.1) = ks := by
  rw [List.map_map]
  exact (List.map_congr_left h).trans (List.map_id ks)

theorem get?_entries (n : String) :
    get? key n (ks.map entry) = if key n ∈ ks then some (entry (key n)).2 else none := by
  induction ks with
  | nil => rfl
  | cons k ks ih =>
    rw [List.map_cons, get?, h k (by simp), ih fun k' hk' => h k' (List.mem_cons_of_mem k hk')]
    by_cases hk : k = key n
    · simp [hk]
    · simp [hk, Ne.symm hk]

end

end Multimap

namespace Headers

/-! ## Histories -/

/-- Names that differ in case only have the same key. -/
abbrev Key := List Char

inductive Change where
  | append (name value : String)
  | extend (name : String) (values : List String)
  | insert (name : String) (values : List String)
  | remove (name : String)

namespace Change

def name : Change → String
  | append name _ => name
  | extend name _ => name
  | insert name _ => name
  | remove name => name

def key (c : Change) : Key := Text.caseKey c.name

def values : Change → List String
  | append _ value => [value]
  | extend _ values => values
  | insert _ values => values
  | remove _ => []

def isInsert : Change → Bool
  | insert _ _ => true
  | append _ _ | extend _ _ | remove _ => false

def isRemove : Change → Bool
  | remove _ => true
  | append _ _ | extend _ _ | insert _ _ => false

def apply : Change → Headers → Headers
  | append name value, h => h.append name value
  | extend name values, h => h.extend name values
  | insert name values, h => h.insert name values
  | remove name, h => (h.remove name).2

end Change

def changed (cs : List Change) : Headers := cs.foldl (fun h c => c.apply h) empty

/-! ## What a history says -/

variable {cs : List Change} {c : Change} {k : Key}

def since (k : Key) (cs : List Change) : List Change :=
  (cs.filter fun c => c.key = k).rtakeWhile fun c => !c.isRemove

/-- The changes from the last insertion on, or all if there is none. -/
def fromInsert : List Change → List Change
  | [] => []
  | c :: cs => if cs.any Change.isInsert then fromInsert cs else c :: cs

def spelling (k : Key) (cs : List Change) : String := ((since k cs).head?.map Change.name).getD ""

/-- The values of the last insertion, or else of the first addition, and those added after it. -/
def valuesOf (k : Key) (cs : List Change) : List String :=
  (fromInsert (since k cs)).flatMap Change.values

def held? (k : Key) (cs : List Change) : Option (List String) :=
  if since k cs = [] then none else some (valuesOf k cs)

/-- The change adds its key, which was not there, and which no later change removes. -/
def Opens (before : List Change) (c : Change) (after : List Change) : Prop :=
  c.isRemove = false ∧ since c.key before = [] ∧ ∀ d ∈ after, d.isRemove = true → d.key ≠ c.key

instance (before : List Change) (c : Change)
    (after : List Change) : Decidable (Opens before c after) :=
  inferInstanceAs (Decidable (_ ∧ _ ∧ _))

def keysAfter (before : List Change) : List Change → List Key
  | [] => []
  | c :: after =>
    if Opens before c after then c.key :: keysAfter (before ++ [c]) after else keysAfter (before ++ [c]) after

def recorded (cs : List Change) : Multimap String :=
  (keysAfter [] cs).map fun k => (spelling k cs, valuesOf k cs)

/-! ## One more change -/

theorem changed_concat (cs : List Change) (c : Change) :
    changed (cs ++ [c]) = c.apply (changed cs) := by
  rw [changed, List.foldl_append]
  rfl

theorem since_concat (k : Key) (cs : List Change) (c : Change) :
    since k (cs ++ [c]) = if c.key = k then if c.isRemove then [] else since k cs ++ [c] else since k cs := by
  unfold since
  rw [List.filter_append]
  by_cases hk : c.key = k
  · rw [if_pos hk, List.filter_cons_of_pos (by simpa using hk), List.filter_nil, List.rtakeWhile_concat]
    cases c.isRemove <;> rfl
  · rw [if_neg hk, List.filter_cons_of_neg (by simpa using hk), List.filter_nil, List.append_nil]

theorem fromInsert_concat (cs : List Change) (c : Change) :
    fromInsert (cs ++ [c]) = if c.isInsert then [c] else fromInsert cs ++ [c] := by
  induction cs with
  | nil => simp [fromInsert]
  | cons d cs ih =>
    rw [List.cons_append, fromInsert, ih, fromInsert, List.any_append]
    cases hc : c.isInsert with
    | true => simp [hc]
    | false =>
      simp only [List.any_cons, hc, List.any_nil, Bool.or_false, Bool.false_eq_true, if_false]
      split <;> rfl

theorem opens_concat {before after : List Change} (c d : Change) :
    Opens before d (after ++ [c]) ↔
    Opens before d after ∧ ¬ (c.isRemove = true ∧ c.key = d.key) := by
  simp only [Opens, List.forall_mem_append, List.forall_mem_singleton, not_and, ne_eq, and_assoc]

theorem keysAfter_concat (before cs : List Change) (c : Change) :
    keysAfter before (cs ++ [c]) = (keysAfter before cs).filter (fun k => ¬ (c.isRemove = true ∧ c.key = k)) ++
      if c.isRemove = false ∧ since c.key (before ++ cs) = [] then [c.key] else [] := by
  induction cs generalizing before with
  | nil => simp [keysAfter, Opens]
  | cons d cs ih =>
    rw [List.cons_append, keysAfter, keysAfter, ih, List.append_assoc, List.singleton_append]
    simp only [opens_concat]
    by_cases hopens : Opens before d cs
    · by_cases hremoved : c.isRemove = true ∧ c.key = d.key
      · rw [if_neg (not_and_of_not_right _ (not_not_intro hremoved)), if_pos hopens,
          List.filter_cons_of_neg (by simpa using hremoved)]
      · rw [if_pos ⟨hopens, hremoved⟩, if_pos hopens, List.filter_cons, if_pos (decide_eq_true hremoved),
          List.cons_append]
    · rw [if_neg (not_and_of_not_left _ hopens), if_neg hopens]

/-! ## Keys -/

theorem mem_since (h : c ∈ since k cs) : c.key = k := by
  have hmem := (List.rtakeWhile_suffix _ _).subset h
  simpa using (List.mem_filter.mp hmem).2

theorem mem_keysAfter (cs : List Change) (k : Key) : k ∈ keysAfter [] cs ↔ since k cs ≠ [] := by
  induction cs using List.reverseRecOn with
  | nil => simp [keysAfter, since]
  | append_singleton cs c ih =>
    rw [keysAfter_concat, since_concat, List.mem_append, List.mem_filter, ih, List.nil_append]
    by_cases hk : c.key = k
    · cases hc : c.isRemove <;> by_cases hnew : since k cs = [] <;> simp [hk, hnew]
    · simp only [hk, and_false, not_false_eq_true, decide_true, and_true, if_false]
      refine or_iff_left fun hmem => ?_
      split at hmem
      · exact hk (List.mem_singleton.mp hmem).symm
      · cases hmem

theorem nodup_keysAfter (cs : List Change) : (keysAfter [] cs).Nodup := by
  induction cs using List.reverseRecOn with
  | nil => exact List.nodup_nil
  | append_singleton cs c ih =>
    rw [keysAfter_concat]
    refine (ih.filter _).append (by split <;> simp) ?_
    intro k hkept hnew
    split at hnew
    · rename_i hc
      obtain rfl := List.mem_singleton.mp hnew
      exact (mem_keysAfter cs c.key).mp (List.mem_filter.mp hkept).1 hc.2
    · cases hnew

theorem caseKey_spelling (h : k ∈ keysAfter [] cs) : Text.caseKey (spelling k cs) = k := by
  obtain ⟨c, rest, hsince⟩ := List.exists_cons_of_ne_nil ((mem_keysAfter cs k).mp h)
  have hmem : c ∈ since k cs := by rw [hsince]; exact List.mem_cons_self
  rw [spelling, hsince]
  exact mem_since hmem

theorem keys_recorded (cs : List Change) :
    (recorded cs).map (fun p => Text.caseKey p.1) = keysAfter [] cs :=
  Multimap.keys_map fun _ => caseKey_spelling

theorem recorded_distinct (cs : List Change) : (recorded cs).Distinct Text.caseKey := by
  rw [Multimap.Distinct, keys_recorded]
  exact nodup_keysAfter cs

/-! ## The end of a history -/

theorem entry_concat_other (h : c.key ≠ k) :
    spelling k (cs ++ [c]) = spelling k cs ∧ valuesOf k (cs ++ [c]) = valuesOf k cs := by
  rw [spelling, valuesOf, since_concat, if_neg h]
  exact ⟨rfl, rfl⟩

theorem entry_concat_new (hc : c.isRemove = false) (hnew : since c.key cs = []) :
    spelling c.key (cs ++ [c]) = c.name ∧ valuesOf c.key (cs ++ [c]) = c.values := by
  rw [spelling, valuesOf, since_concat, if_pos rfl, if_neg (by simp [hc]), hnew]
  exact ⟨rfl, by simp [fromInsert]⟩

theorem entry_concat_there (hc : c.isRemove = false) (hthere : since c.key cs ≠ []) :
    spelling c.key (cs ++ [c]) = spelling c.key cs ∧
      valuesOf c.key (cs ++ [c]) = if c.isInsert then c.values else valuesOf c.key cs ++ c.values := by
  rw [spelling, valuesOf, since_concat, if_pos rfl, if_neg (by simp [hc]), List.head?_append_of_ne_nil _ hthere,
    fromInsert_concat]
  refine ⟨rfl, ?_⟩
  split <;> simp [valuesOf]

theorem recorded_concat_remove (hc : c.isRemove = true) :
    recorded (cs ++ [c]) = (recorded cs).filter fun p => Text.caseKey p.1 ≠ c.key := by
  rw [recorded, keysAfter_concat, if_neg (by simp [hc]), List.append_nil, recorded, List.filter_map]
  have hkept : (keysAfter [] cs).filter (fun k => ¬ (c.isRemove = true ∧ c.key = k)) =
      (keysAfter [] cs).filter ((fun p : String × List String => decide (Text.caseKey p.1 ≠ c.key)) ∘
        fun k => (spelling k cs, valuesOf k cs)) :=
    List.filter_congr fun k hk => by simp [hc, caseKey_spelling hk, eq_comm]
  rw [hkept]
  refine List.map_congr_left fun k hk => ?_
  have hother : c.key ≠ k := by
    have hne := (List.mem_filter.mp hk).2
    rw [Function.comp_apply, caseKey_spelling (List.mem_filter.mp hk).1] at hne
    exact Ne.symm (of_decide_eq_true hne)
  rw [(entry_concat_other hother).1, (entry_concat_other hother).2]

theorem recorded_concat_new (hc : c.isRemove = false) (hnew : since c.key cs = []) :
    recorded (cs ++ [c]) = recorded cs ++ [(c.name, c.values)] := by
  rw [recorded, keysAfter_concat, if_pos ⟨hc, hnew⟩, List.filter_eq_self.mpr (by simp [hc]),
    List.map_append, List.map_singleton, (entry_concat_new hc hnew).1, (entry_concat_new hc hnew).2]
  refine congrArg (· ++ _) (List.map_congr_left fun k hk => ?_)
  have hother : c.key ≠ k := by
    rintro rfl
    exact (mem_keysAfter cs c.key).mp hk hnew
  rw [(entry_concat_other hother).1, (entry_concat_other hother).2]

theorem recorded_concat_there (hc : c.isRemove = false) (hthere : since c.key cs ≠ []) :
    recorded (cs ++ [c]) = (recorded cs).map fun p =>
      if Text.caseKey p.1 = c.key then (p.1, if c.isInsert then c.values else p.2 ++ c.values) else p := by
  rw [recorded, keysAfter_concat, if_neg fun h => hthere h.2, List.append_nil,
    List.filter_eq_self.mpr (by simp [hc]), recorded, List.map_map]
  refine List.map_congr_left fun k hk => ?_
  rw [Function.comp_apply, caseKey_spelling hk]
  by_cases hk : c.key = k
  · subst hk
    rw [if_pos rfl, (entry_concat_there hc hthere).1, (entry_concat_there hc hthere).2]
  · rw [if_neg (Ne.symm hk), (entry_concat_other hk).1, (entry_concat_other hk).2]

theorem apply_entries {h : Headers} (hh : h.entries = recorded cs) :
    (c.apply h).entries = recorded (cs ++ [c]) := by
  have hdistinct : h.entries.Distinct Text.caseKey := hh ▸ recorded_distinct cs
  have hmem : Text.caseKey c.name ∈ h.entries.map (fun p => Text.caseKey p.1) ↔
      since c.key cs ≠ [] := by
    rw [hh, keys_recorded, mem_keysAfter, Change.key]
  -- what an append does, and an insertion, depends on whether the key is there
  have hadds : ∀ name values, c.name = name → c.values = values → c.isRemove = false →
    c.isInsert = false →
      h.entries.extend Text.caseKey name values = recorded (cs ++ [c]) := by
    rintro _ _ rfl rfl hc hi
    by_cases hnew : since c.key cs = []
    · rw [Multimap.extend_of_not_mem fun hin => hmem.mp hin hnew, hh, recorded_concat_new hc hnew]
    · rw [Multimap.extend_of_mem hdistinct (hmem.mpr hnew), hh, recorded_concat_there hc hnew, hi]
      rfl
  cases c with
  | append name value => exact hadds name [value] rfl rfl rfl rfl
  | extend name values => exact hadds name values rfl rfl rfl rfl
  | insert name values =>
    by_cases hnew : since (Change.insert name values).key cs = []
    · rw [recorded_concat_new rfl hnew, ← hh]
      exact Multimap.set_of_not_mem fun hin => hmem.mp hin hnew
    · rw [recorded_concat_there rfl hnew, ← hh]
      exact Multimap.set_of_mem hdistinct (hmem.mpr hnew)
  | remove name =>
    rw [recorded_concat_remove rfl, ← hh]
    exact Multimap.erase_eq_filter hdistinct

theorem changed_entries (cs : List Change) : (changed cs).entries = recorded cs := by
  induction cs using List.reverseRecOn with
  | nil => rfl
  | append_singleton cs c ih => rw [changed_concat, apply_entries ih]

theorem changed_get? (cs : List Change) (name : String) :
    (changed cs).get? name = held? (Text.caseKey name) cs := by
  rw [get?, changed_entries, recorded, Multimap.get?_entries fun _ => caseKey_spelling, held?]
  by_cases hgone : since (Text.caseKey name) cs = []
  · rw [if_neg fun hin => (mem_keysAfter cs _).mp hin hgone, if_pos hgone]
  · rw [if_pos ((mem_keysAfter cs _).mpr hgone), if_neg hgone]

/-- Headers are a map from keys: after any history they have an entry for each key that is there, in
the order of the changes that opened them, with the spelling of that change, and any spelling of a
name finds what its key has. -/
theorem changed_eq_recorded (cs : List Change) :
    (changed cs).entries = recorded cs ∧
    ((changed cs).entries.map fun p => Text.caseKey p.1) = keysAfter [] cs ∧
      (keysAfter [] cs).Nodup ∧ (∀ k, k ∈ keysAfter [] cs ↔ (held? k cs).isSome) ∧
      ∀ name, (changed cs).get? name = held? (Text.caseKey name) cs ∧
        (changed cs).first? name = (held? (Text.caseKey name) cs).bind List.head? ∧
        (changed cs).contains name = (held? (Text.caseKey name) cs).isSome ∧
        (changed cs).remove name = (held? (Text.caseKey name) cs, changed (cs ++ [.remove name])) := by
  refine ⟨changed_entries cs, by rw [changed_entries, keys_recorded], nodup_keysAfter cs, fun k => ?_, fun name => ?_⟩
  · rw [mem_keysAfter, held?]
    split <;> simp_all
  · have hget := changed_get? cs name
    refine ⟨hget, by rw [first?, hget], by rw [contains, Multimap.contains, ← get?, hget], ?_⟩
    rw [remove, hget, changed_concat]
    rfl

example : changed [.append "Accept" "text/plain", .append "X-Trace" "1", .append "accept" "text/html",
    .remove "x-trace", .insert "ACCEPT" ["*/*"], .extend "X-TRACE" []] =
    ⟨[("Accept", ["*/*"]), ("X-TRACE", [])]⟩ := by
  decide +kernel

end Headers

end DeclarativeHttp
