import DeclarativeHttp.Client.Basic
import DeclarativeHttp.Proofs.Run
import Mathlib.Data.List.Nodup

/-!
# Dispatch

An instance is made of the metadata that a contract gives, whichever contract that is. Handlers are
kept by key, and keys by name; both come of one list without a key twice, so a call by name and one
by key are one call (`newInstance_dispatches`).
-/

namespace DeclarativeHttp

/-! ## Handlers -/

namespace Client

variable {c : Client} {target : Target} {ms : List Metadata} {done handlers : Dispatch}

theorem dispatch_ok (h : c.dispatch target done ms = .ok handlers) :
    handlers = done ++ ms.map (fun m => (m.configKey, c.handler target m)) ∧
    (ms.map Metadata.configKey).Nodup ∧
      ∀ m ∈ ms, done.lookup m.configKey = none := by
  induction ms generalizing done with
  | nil =>
    cases h
    exact ⟨(List.append_nil _).symm, List.nodup_nil, fun m hm => (List.not_mem_nil hm).elim⟩
  | cons m ms ih =>
    rw [dispatch] at h
    split at h
    · cases h
    · rename_i hnew
      obtain ⟨rfl, hnodup, hfree⟩ := ih h
      -- what is looked up for a later record has passed by this one's key too
      have hlater : ∀ n ∈ ms, done.lookup n.configKey = none ∧ m.configKey ≠ n.configKey :=
        fun n hn => by
        have hnone := hfree n hn
        rw [List.lookup_append, Option.or_eq_none_iff] at hnone
        refine ⟨hnone.1, fun heq => ?_⟩
        rw [heq, List.lookup_cons_self] at hnone
        cases hnone.2
      refine ⟨by simp, List.nodup_cons.mpr ⟨fun hmem => ?_, hnodup⟩, List.forall_mem_cons.mpr ⟨?_, ?_⟩⟩
      · obtain ⟨n, hn, heq⟩ := List.mem_map.mp hmem
        exact (hlater n hn).2 heq.symm
      · exact Option.not_isSome_iff_eq_none.mp hnew
      · exact fun n hn => (hlater n hn).1

theorem dispatch_error {e : Error} (h : c.dispatch target done ms = .error e) :
    ∃ text, e = .configuration text := by
  induction ms generalizing done with
  | nil => cases h
  | cons m ms ih =>
    rw [dispatch] at h
    split at h
    · cases h
      exact ⟨_, rfl⟩
    · exact ih h

theorem lookup_of_mem {α : Type} {f : Metadata → α} {m : Metadata}
    (h : (ms.map Metadata.configKey).Nodup) (hm : m ∈ ms) :
    (ms.map fun m => (m.configKey, f m)).lookup m.configKey = some (f m) := by
  induction ms with
  | nil => cases hm
  | cons n ms ih =>
    obtain ⟨hnew, hnodup⟩ := List.nodup_cons.mp h
    obtain rfl | hm := List.mem_cons.mp hm
    · exact List.lookup_cons_self
    · have hne : m.configKey ≠ n.configKey := fun heq => hnew (heq ▸ List.mem_map_of_mem hm)
      rw [List.map_cons, List.lookup_cons, beq_eq_false_iff_ne.mpr hne]
      exact ih hnodup hm

theorem lookup_of_not_mem {α : Type} {f : Metadata → α} {key : String}
    (h : key ∉ ms.map Metadata.configKey) :
    (ms.map fun m => (m.configKey, f m)).lookup key = none := by
  refine List.lookup_eq_none_iff.mpr fun q hq => ?_
  obtain ⟨m, hm, rfl⟩ := List.mem_map.mp hq
  exact bne_iff_ne.mpr fun heq => h (heq ▸ List.mem_map_of_mem hm)

end Client

/-! ## Instances -/

def recordsOf (name : String) (ms : List Metadata) : List Metadata :=
  ms.filter fun m => m.methodName == name

/-- The instance does what a list of metadata says. What is
refused is refused at once, and nothing else is done. -/
structure Instance.Dispatches (c : Client) (target : Target) (ms : List Metadata) (i : Instance) :
    Prop where
  sorted : i.configKeys.Pairwise (· < ·)
  complete : i.configKeys.Perm (ms.map Metadata.configKey)
  /-- A name that only one record has is as good as its key. -/
  named : ∀ name m, recordsOf name ms = [m] → ∀ args, i.call name args = i.invoke m.configKey args
  missing : ∀ name, recordsOf name ms = [] → ∀ args,
    i.call name args = Run.fail (.invalidArgument s!"{target.interface.name} has no method {name}")
  overloaded : ∀ name, 1 < (recordsOf name ms).length → ∀ args,
    let keys := ", ".intercalate ((recordsOf name ms).map fun m => Text.quoted m.configKey)
    i.call name args = Run.fail (.invalidArgument s!"{name} is overloaded; invoke one of [{keys}] by config key")
  unknown : ∀ key, key ∉ ms.map Metadata.configKey → ∀ args,
    i.invoke key args = Run.fail (.invalidArgument s!"{target.interface.name} has no method {key}")
  ignored : ∀ m ∈ ms, m.ignored = true → ∀ args,
    i.invoke m.configKey args = Run.fail (.configuration s!"Method {m.configKey} is ignored and cannot be invoked")
  handled : ∀ m ∈ ms, m.ignored = false →
    ∀ args, i.invoke m.configKey args = c.components.call target m args

namespace Instance

variable {c : Client} {target : Target} {ms : List Metadata} {i : Instance}

theorem configKeys_perm (hmethods : i.methods = ms.map fun m => (m.methodName, m.configKey)) :
    i.configKeys.Perm (ms.map Metadata.configKey) := by
  refine (List.mergeSort_perm _ _).trans (.of_eq ?_)
  rw [hmethods, List.map_map]
  rfl

theorem configKeys_sorted (i : Instance) (h : i.configKeys.Nodup) :
    i.configKeys.Pairwise (· < ·) := by
  have hsorted : i.configKeys.Pairwise fun a b => decide (a ≤ b) = true :=
    List.pairwise_mergeSort (fun a b d hab hbd => by simpa using String.le_trans (by simpa using hab) (by simpa using hbd))
      (fun a b => by simpa using String.le_total a b) _
  refine (hsorted.and h).imp fun {a b} ⟨hle, hne⟩ => ?_
  by_contra hlt
  exact hne (String.le_antisymm (of_decide_eq_true hle) (String.not_lt.mp hlt))

theorem keysOf_eq (hmethods : i.methods = ms.map fun m => (m.methodName, m.configKey))
    (name : String) :
    i.keysOf name = (recordsOf name ms).map Metadata.configKey := by
  rw [keysOf, hmethods, List.filter_map, List.map_map]
  rfl

end Instance

theorem newInstance_ok {c : Client} {target : Target} {i : Instance} {s s' : Session}
    (hfactory : c.invokerFactory = InvokerFactory.default)
    (h : (c.newInstance target).on s = (.ok i, s')) :
    ∃ ms, (c.contract.parse target.interface).on s = (.ok ms, s') ∧
      (ms.map Metadata.configKey).Nodup ∧
      i.target = target ∧ i.methods = ms.map (fun m => (m.methodName, m.configKey)) ∧
      ∀ key args, i.invoke key args =
        match (ms.map fun m => (m.configKey, c.handler target m)).lookup key with
        | some handler => handler args
        | none => Run.fail (.invalidArgument s!"{target.interface.name} has no method {key}") := by
  obtain ⟨ms, t, hparse, h⟩ := Run.bind_eq_ok h
  obtain ⟨handlers, u, hdispatch, h⟩ := Run.bind_eq_ok h
  cases hhandlers : c.dispatch target [] ms with
  | error e => rw [hhandlers] at hdispatch; cases hdispatch
  | ok found =>
    rw [hhandlers] at hdispatch
    cases hdispatch
    obtain ⟨rfl, hnodup, -⟩ := Client.dispatch_ok hhandlers
    rw [hfactory] at h
    cases h
    exact ⟨ms, hparse, hnodup, rfl, rfl, fun key args => rfl⟩

theorem newInstance_error {c : Client} {target : Target} {ms : List Metadata} {s s' : Session}
    (hparse : (c.contract.parse target.interface).on s = (.ok ms, s'))
    (hshared : ¬ (ms.map Metadata.configKey).Nodup) :
    ∃ text, (c.newInstance target).on s = (.error (.error (.configuration text)), s') := by
  have hrefused : ∃ text, c.dispatch target [] ms = .error (.configuration text) := by
    cases hdispatch : c.dispatch target [] ms with
    | ok handlers => exact absurd (Client.dispatch_ok hdispatch).2.1 hshared
    | error e =>
      obtain ⟨text, rfl⟩ := Client.dispatch_error hdispatch
      exact ⟨text, rfl⟩
  obtain ⟨text, hrefused⟩ := hrefused
  refine ⟨text, (Run.on_bind_ok hparse).trans (Run.on_bind_error ?_)⟩
  rw [hrefused]
  rfl

/-- An instance that the default factory makes does what the metadata say that its contract gave. If
two of them share a key there is no instance. -/
theorem newInstance_dispatches (c : Client) (target : Target) (s : Session) :
    (c.invokerFactory = InvokerFactory.default → ∀ i s', (c.newInstance target).on s = (.ok i, s') →
      ∃ ms, (c.contract.parse target.interface).on s = (.ok ms, s') ∧ i.Dispatches c target ms) ∧
    ∀ ms s', (c.contract.parse target.interface).on s = (.ok ms, s') →
      ¬ (ms.map Metadata.configKey).Nodup →
      ∃ text, (c.newInstance target).on s = (.error (.error (.configuration text)), s') := by
  refine ⟨fun hfactory i s' hmade => ?_, fun ms s' => newInstance_error⟩
  obtain ⟨ms, hparse, hnodup, htarget, hmethods, hinvoke⟩ := newInstance_ok hfactory hmade
  have hperm := Instance.configKeys_perm hmethods
  have hkeys : ∀ name, i.keysOf name = (recordsOf name ms).map Metadata.configKey :=
    Instance.keysOf_eq hmethods
  refine ⟨ms, hparse, Instance.configKeys_sorted i (hperm.nodup_iff.mpr hnodup), hperm, fun name m hone args => ?_,
    fun name hnone args => ?_, fun name hmany args => ?_, fun key hunknown args => ?_,
    fun m hm hignored args => ?_,
    fun m hm hkept args => ?_⟩
  · rw [Instance.call, hkeys, hone]
    rfl
  · rw [Instance.call, hkeys, hnone, htarget]
    rfl
  · obtain ⟨m, n, rest, hrecords⟩ : ∃ m n rest, recordsOf name ms = m :: n :: rest := by
      match recordsOf name ms, hmany with
      | m :: n :: rest, _ => exact ⟨m, n, rest, rfl⟩
    rw [Instance.call, hkeys, hrecords]
    simp [Function.comp_def]
  · rw [hinvoke, Client.lookup_of_not_mem hunknown]
  · rw [hinvoke, Client.lookup_of_mem hnodup hm, Client.handler, if_pos hignored]
    rfl
  · rw [hinvoke, Client.lookup_of_mem hnodup hm, Client.handler, if_neg (by simp [hkept])]

/-- Two methods of one name and one that is ignored; and then two of one key. -/
theorem newInstance_dispatches_overloads :
    let record (key name : String) : Metadata := Metadata.new key name .void []
    let client (ms : List Metadata) :
    Client := { ClientBuilder.default.build with contract := ⟨fun _ => pure ms⟩ }
    let target : Target := .unbound (.mk "Api" [] [] [] [])
    let s : Session := ⟨0, 0, [], 0, fun _ => false, fun n => n, []⟩
    let ms := [record "Api#put()" "put", record "Api#get()" "get", record "Api#get(String)" "get",
      (record "Api#debug()" "debug").ignoreMethod]
    (∃ i, ((client ms).newInstance target).on s = (.ok i, s) ∧
      i.configKeys = ["Api#debug()", "Api#get()", "Api#get(String)", "Api#put()"] ∧
      (∀ args, i.call "put" args = i.invoke "Api#put()" args) ∧
      (∀ args, ∃ text, i.call "get" args = Run.fail (.invalidArgument text)) ∧
      (∀ args, i.call "head" args = Run.fail (.invalidArgument "Api has no method head")) ∧
      ∀ args, ∃ text, i.invoke "Api#debug()" args = Run.fail (.configuration text)) ∧
    ∃ text, ((client [record "Api#get()" "get", record "Api#get()" "fetch"]).newInstance target).on s =
      (.error (.error (.configuration text)), s) := by
  intro record client target s ms
  constructor
  · obtain ⟨i, hmade⟩ : ∃ i, ((client ms).newInstance target).on s = (.ok i, s) := ⟨_, rfl⟩
    obtain ⟨ms', hparse, hi⟩ := (newInstance_dispatches (client ms) target s).1 rfl i s hmade
    cases hparse
    refine ⟨i, hmade, ?_, hi.named "put" (record "Api#put()" "put") rfl, fun args => ⟨_, hi.overloaded "get" ?_ args⟩,
      hi.missing "head" rfl, fun args => ⟨_, hi.ignored (record "Api#debug()" "debug").ignoreMethod ?_ rfl args⟩⟩
    · have hsorted : ["Api#debug()", "Api#get()", "Api#get(String)", "Api#put()"].Pairwise (· < ·) := by decide
      exact (hi.complete.trans (by decide)).eq_of_pairwise (fun _ _ _ _ hab hba => absurd hba (String.lt_asymm hab))
        hi.sorted hsorted
    · decide
    · exact List.mem_of_getElem? (rfl : ms[3]? = some _)
  · exact (newInstance_dispatches (client _) target s).2 _ s rfl (by decide)

end DeclarativeHttp
