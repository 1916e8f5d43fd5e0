import DeclarativeHttp.Proofs.Reading
import Mathlib.Data.List.Nodup

/-!
# What is accepted can be called

Metadata are filled in by the attributes of interface, method and parameters, each by rules of its
own. What holds of all metadata that are accepted in the end (`Metadata.Safe`) is enough for a call:
whatever the arguments, no argument is looked for that is not there (`accepted_safe`).
-/

namespace DeclarativeHttp

/-! ## Crashes -/

namespace Run

variable {α : Type} {p : Crash → Prop}

def CrashesOnly (p : Crash → Prop) (x : Run α) : Prop :=
  ∀ s c t, x.on s = (.error (.crash c), t) → p c

theorem crashesOnly_iff {x : Run α} :
    CrashesOnly p x ↔ Faults (fun f => ∀ c, f = .crash c → p c) x :=
  ⟨fun h s _ t hf c hc => h s c t (hc ▸ hf), fun h s c t hf => h s _ t hf c rfl⟩

theorem crashesOnly_pure (a : α) : CrashesOnly p (pure a) := crashesOnly_iff.mpr (faults_pure a)

theorem crashesOnly_fail (e : Error) : CrashesOnly p (fail e : Run α) :=
  crashesOnly_iff.mpr (faults_fail fun c hc => by cases hc)

theorem crashesOnly_closed : Closed (fun {_} x => CrashesOnly p x) :=
  ⟨crashesOnly_pure, fun hx hk => crashesOnly_iff.mpr
    (faults_closed.bind (crashesOnly_iff.mp hx) fun a => crashesOnly_iff.mp (hk a))⟩

theorem CrashesOnly.mapError {x : Run α} (hx : CrashesOnly p x) (f : Error → Error) :
    CrashesOnly p (mapError f x) := by
  intro s c t h
  rw [on_mapError] at h
  split at h <;> cases h
  rename_i hon
  exact hx s c t hon

end Run

/-! ## Metadata that are safe -/

namespace Metadata

structure Safe (m : Metadata) : Prop where
  method : m.template.method.isSome = true
  indexed : m.Indexed m.paramTypes.length
  exclusive : m.bodyIndex.isSome = true → m.formParams = []

theorem bodyEncoding_form (m : Metadata) :
    m.bodyEncoding = .form ↔ m.formParams ≠ [] ∧ m.template.bodyTemplate? = none := by
  unfold bodyEncoding
  split
  · rename_i h
    simpa using h
  · rename_i h
    refine ⟨fun he => ?_, fun he => absurd (by simpa using he) h⟩
    split at he <;> cases he

theorem isSome_of_object {m : Metadata} (h : m.bodyEncoding = .object) :
    m.bodyIndex.isSome = true := by
  unfold bodyEncoding at h
  split at h
  · cases h
  · split at h
    · assumption
    · cases h

theorem Safe.bodyIndex_of_form {m : Metadata} (hm : m.Safe) (h : m.bodyEncoding = .form) :
    m.bodyIndex = none := by
  by_contra hbody
  exact (m.bodyEncoding_form.mp h).1 (hm.exclusive (Option.isSome_iff_ne_none.mpr hbody))

theorem Safe.exists_of_object {m : Metadata} (hm : m.Safe) (h : m.bodyEncoding = .object) :
    ∃ k type, m.bodyIndex = some k ∧ m.bodyType = some type := by
  have hbody := isSome_of_object h
  obtain ⟨k, hk⟩ := Option.isSome_iff_exists.mp hbody
  obtain ⟨type, htype⟩ := Option.isSome_iff_exists.mp (hm.indexed.bodyType ▸ hbody)
  exact ⟨k, type, hk, htype⟩

end Metadata

open Metadata (Indexed Safe)

namespace DefaultDialect

variable {i : Interface} {op : Operation} {m m' : Metadata} {p : Parameter} {k n : Nat}

theorem indexed_new (configKey name : String) (returns : TypeRef) (types : List TypeRef) :
    Indexed n (Metadata.new configKey name returns types) where
  names := by intro k names h; cases h
  body := by intro k h; cases h
  bodyType := rfl
  url := by intro k h; cases h
  queryMap := by intro k h; cases h
  headerMap := by intro k h; cases h

theorem Fills.indexed (h : Fills op m m') (hm : Indexed n m) : Indexed n m' := by
  rw [h.frame]
  exact ⟨hm.names, hm.body, hm.bodyType, hm.url, hm.queryMap, hm.headerMap⟩

theorem Change.indexed (h : Change p k m m') (hk : k < n) (hm : Indexed n m) : Indexed n m' := by
  have hput : ∀ j, some k = some j → j < n := fun j hj => Option.some.inj hj ▸ hk
  obtain h | h := h
  · cases h with
    | warned => exact ⟨hm.names, hm.body, hm.bodyType, hm.url, hm.queryMap, hm.headerMap⟩
    | named name =>
      refine ⟨fun j names hj => ?_, hm.body, hm.bodyType, hm.url, hm.queryMap, hm.headerMap⟩
      obtain hj | ⟨rfl, -⟩ := IndexMap.mem_alter hj
      · exact hm.names j names hj
      · exact hk
    | queryMap => exact ⟨hm.names, hm.body, hm.bodyType, hm.url, hput, hm.headerMap⟩
    | headerMap => exact ⟨hm.names, hm.body, hm.bodyType, hm.url, hm.queryMap, hput⟩
  · cases h with
    | target => exact ⟨hm.names, hm.body, hm.bodyType, hput, hm.queryMap, hm.headerMap⟩
    | kept => exact hm
    | body => exact ⟨hm.names, hput, rfl, hm.url, hm.queryMap, hm.headerMap⟩

theorem indexed_of_placed {ps : List Parameter} (h : dialect.placeParameters 0 ps m = .ok m')
    (hm : Indexed ps.length m) :
    Indexed ps.length m' := by
  refine placeParameters_changes h hm fun j p hp n n' hchange hn => hchange.indexed ?_ hn
  rw [Nat.zero_add]
  exact (List.getElem?_eq_some_iff.mp hp).1

theorem safe_of_parseOperation (h : dialect.parseOperation i op = .ok m) : m.Safe := by
  obtain ⟨m₀, hfills, hplaced, hmethod, hcheck⟩ := parseOperation_ok h
  have harity : m.paramTypes.length = op.params.length := by
    rw [placeParameters_paramTypes hplaced, hfills.frame]
    exact List.length_map _
  refine ⟨hmethod, by rw [harity]; exact indexed_of_placed hplaced (hfills.indexed (indexed_new ..)), fun hbody => ?_⟩
  unfold Dialect.checkBodyAndForm at hcheck
  split at hcheck
  · cases hcheck
  · rename_i hexclusive
    simpa [hbody] using hexclusive

end DefaultDialect

namespace Dialect

variable {d : Dialect} {i : Interface} {ops : List Operation} {done ms : List Metadata}

theorem parseOperations_keys (h : d.parseOperations i done ops = .ok ms)
    (hdone : (done.map Metadata.configKey).Nodup) :
    (ms.map Metadata.configKey).Nodup := by
  induction ops generalizing done with
  | nil => cases h; exact hdone
  | cons op ops ih =>
    obtain ⟨-, -, hread⟩ := Error.bind_eq_ok h
    obtain ⟨m, -, hrest⟩ := Error.bind_eq_ok hread
    split at hrest
    · cases hrest
    · rename_i hnew
      refine ih hrest ?_
      rw [List.map_append, List.nodup_append]
      refine ⟨hdone, List.nodup_singleton _, fun key hkey key' hkey' he => hnew ?_⟩
      obtain ⟨m', hm', rfl⟩ := List.mem_map.mp hkey
      obtain rfl : key' = m.configKey := by simpa using hkey'
      exact List.any_eq_true.mpr ⟨m', hm', by simp [he]⟩

theorem parse_keys (h : d.parse i = .ok ms) : (ms.map Metadata.configKey).Nodup := by
  obtain ⟨ops, -, hrest⟩ := Error.bind_eq_ok h
  exact parseOperations_keys hrest List.nodup_nil

end Dialect

/-! ## Calls -/

/-- A call of safe metadata crashes only where an encoder does. -/
theorem Binding.crashesOnly_create {encoder : Encoder} {queries : QueryMapEncoder} {m : Metadata}
    {args : List Arg} {p : Crash → Prop} (hm : m.Safe)
    (hencoder : ∀ a type t, (encoder.encode a type t).CrashesOnly p) (hqueries : ∀ v, (queries.encode v).CrashesOnly p) : (create encoder queries m args).CrashesOnly p := by
  refine create_closed Run.crashesOnly_closed (fun msg => Run.crashesOnly_fail _) (fun harity k hk => ?_)
    (fun a type t => (hencoder a type t).mapError asEncodeError) hqueries
  rw [argument_of_lt (harity ▸ hm.indexed.lt_of_mentions hk)]
  exact Run.crashesOnly_pure _

/-- The metadata of an interface that is accepted have keys of their own and are safe: a form is
encoded only where there is no body parameter, a body parameter has its index and its type, and a
call crashes, whatever its arguments, only where one of its encoders crashes. -/
theorem accepted_safe {i : Interface} {ms : List Metadata}
    (h : DefaultDialect.dialect.parse i = .ok ms) :
    (ms.map Metadata.configKey).Nodup ∧ ∀ m ∈ ms, m.Safe ∧
      (m.bodyEncoding = .form → m.bodyIndex = none) ∧
      (m.bodyEncoding = .object → ∃ k type, m.bodyIndex = some k ∧ m.bodyType = some type) ∧
      ∀ (encoder : Encoder) (queries : QueryMapEncoder) (args : List Arg) (p : Crash → Prop),
        (∀ a type t, (encoder.encode a type t).CrashesOnly p) →
          (∀ v, (queries.encode v).CrashesOnly p) →
          (Binding.create encoder queries m args).CrashesOnly p := by
  refine ⟨Dialect.parse_keys h, fun m hm => ?_⟩
  obtain ⟨op, hreads⟩ := Dialect.exists_reads h hm
  have hsafe := DefaultDialect.safe_of_parseOperation hreads.read
  exact ⟨hsafe, hsafe.bodyIndex_of_form, hsafe.exists_of_object, fun encoder queries args p =>
    Binding.crashesOnly_create hsafe⟩

/-- A form, a body beside maps and a URI. -/
theorem accepted_safe_users :
    let strings := TypeRef.named "Map" [.simple "String", .simple "String"]
    let login : Operation := ⟨"login", .abstract, [.requestLine "POST /login" true .exploded],
      [⟨none, .simple "String", [.param "user" none, .param "login" none]⟩], .void⟩
    let save : Operation := ⟨"save", .abstract, [.requestLine "PUT /users/{id}" true .exploded],
      [⟨none, .simple "String", [.param "id" none]⟩, ⟨none, .simple "Uri", []⟩, ⟨none, strings, [.queryMap false]⟩,
        ⟨none, .simple "User", []⟩, ⟨none, strings, [.headerMap]⟩], .void⟩
    ∃ ms, DefaultDialect.dialect.parse (.mk "Api" [] [] [] [login, save]) = .ok ms ∧
      ms.map Metadata.bodyEncoding = [.form, .object] ∧ (ms.map Metadata.configKey).Nodup ∧
      ∀ m ∈ ms, m.Safe ∧ ∀ args, (Binding.create (.form .json) .members m args).CrashesOnly fun _ => False := by
  intro strings login save
  have hencodings : (DefaultDialect.dialect.parse (.mk "Api" [] [] [] [login, save])).toOption.map
      (List.map Metadata.bodyEncoding) = some [.form, .object] := by decide +kernel
  cases hparse : DefaultDialect.dialect.parse (.mk "Api" [] [] [] [login, save]) with
  | error e => rw [hparse] at hencodings; cases hencodings
  | ok ms =>
    rw [hparse] at hencodings
    obtain ⟨hkeys, hall⟩ := accepted_safe hparse
    refine ⟨ms, rfl, Option.some.inj hencodings, hkeys, fun m hm => ?_⟩
    obtain ⟨hsafe, -, -, hcalls⟩ := hall m hm
    exact ⟨hsafe, fun args => hcalls _ _ args _
      (Encoder.Stock.json.form.encode Run.crashesOnly_pure Run.crashesOnly_fail)
      (QueryMapEncoder.members_encode Run.crashesOnly_pure Run.crashesOnly_fail)⟩

end DeclarativeHttp
