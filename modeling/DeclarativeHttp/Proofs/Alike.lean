import DeclarativeHttp.Proofs.Stock

/-!
# Runs that look alike

Two sessions look alike if they differ only in the lines that were logged and the bodies that were
read; two runs are alike if from such sessions they give the same, up to a map of their results, and
leave sessions that look alike again. A body in memory gives the same as the stream it was read
from, so a decoder that goes by the bytes of a body is alike on both.
-/

namespace DeclarativeHttp

/-- Is it more than a line in a log or the reading of a body? -/
def Event.isOutward : Event → Bool
  | .logged .. | .read => false
  | .sent .. | .slept _ | .noted _ => true

namespace Session

def outward (s : Session) : List Event := s.journal.filter Event.isOutward

def seen (s : Session) : Session := { s with journal := s.outward }

theorem seen_append {es : List Event} (h : ∀ e ∈ es, e.isOutward = false) (s : Session) :
    ({ s with journal := s.journal ++ es } : Session).seen = s.seen := by
  have hnone : es.filter Event.isOutward = [] :=
    List.filter_eq_nil_iff.mpr fun e he => by rw [h e he]; decide
  simp only [seen, outward, List.filter_append, hnone, List.append_nil]

end Session

namespace Run

variable {α β γ δ : Type}

def view (f : α → β) (out : Except Fault α × Session) : Except Fault β × Session :=
  (out.1.map f, out.2.seen)

def Alike (f : α → β) (x y : Run α) : Prop :=
  ∀ s t, s.seen = t.seen → view f (x.on s) = view f (y.on t)

variable {f : α → β} {g : γ → δ} {x y : Run α}

theorem alike_pure {a b : α} (h : f a = f b) : Alike f (pure a) (pure b) := by
  intro s t hst
  simp only [view, on_pure, Except.map, h, hst]

theorem alike_fail (e : Error) : Alike f (fail e) (fail e) := by
  intro s t hst
  simp only [view, on_fail, Except.map, hst]

theorem view_cases {p q : Except Fault α × Session} (h : view f p = view f q) :
    ∃ s t, s.seen = t.seen ∧ ((∃ e, p = (.error e, s) ∧ q = (.error e, t)) ∨
      ∃ a b, f a = f b ∧ p = (.ok a, s) ∧ q = (.ok b, t)) := by
  obtain ⟨a, s⟩ := p
  obtain ⟨b, t⟩ := q
  simp only [view, Prod.mk.injEq] at h
  refine ⟨s, t, h.2, ?_⟩
  cases a with
  | error e =>
    cases b with
    | error e' => cases h.1; exact .inl ⟨e, rfl, rfl⟩
    | ok b => cases h.1
  | ok a =>
    cases b with
    | error e => cases h.1
    | ok b => exact .inr ⟨a, b, by simpa [Except.map] using h.1, rfl, rfl⟩

theorem Alike.bind {k l : α → Run γ} (h : Alike f x y)
    (hk : ∀ a b, f a = f b → Alike g (k a) (l b)) :
    Alike g (x >>= k) (y >>= l) := by
  intro s t hst
  obtain ⟨s', t', hst', ⟨e, hx, hy⟩ | ⟨a, b, hab, hx, hy⟩⟩ := view_cases (h s t hst)
  · rw [on_bind_error hx, on_bind_error hy]
    exact Prod.ext rfl hst'
  · rw [on_bind_ok hx, on_bind_ok hy]
    exact hk a b hab s' t' hst'

theorem Alike.attempt (h : Alike f x y) : Alike (Except.map f) (attempt x) (attempt y) := by
  intro s t hst
  obtain ⟨s', t', hst', ⟨e | c, hx, hy⟩ | ⟨a, b, hab, hx, hy⟩⟩ := view_cases (h s t hst)
  · rw [on_attempt_error hx, on_attempt_error hy]
    exact Prod.ext rfl hst'
  · rw [on_attempt_crash hx, on_attempt_crash hy]
    exact Prod.ext rfl hst'
  · rw [on_attempt_ok hx, on_attempt_ok hy]
    exact Prod.ext (congrArg (fun c => Except.ok (Except.ok c)) hab) hst'

theorem Alike.mapError (h : Alike f x y) (k : Error → Error) :
    Alike f (mapError k x) (mapError k y) := by
  refine h.attempt.bind fun a b hab => ?_
  cases a with
  | error e =>
    cases b with
    | error e' => cases hab; exact alike_fail (k e)
    | ok b => cases hab
  | ok a =>
    cases b with
    | error e => cases hab
    | ok b => exact alike_pure (by simpa [Except.map] using hab)

theorem alike_clock : Alike id clock clock := by
  intro s t hst
  have hnow : s.seen.now = t.seen.now := by rw [hst]
  simp only [view, on_clock, Except.map, show s.now = t.now from hnow, hst]

/-! ## Runs that only leave notes -/

def OnlyNotes (x : Run α) : Prop := ∀ s, ∃ es, (x.on s).2 = { s with journal := s.journal ++ es }

theorem onlyNotes_pure (a : α) : OnlyNotes (pure a) := fun s => ⟨[], by simp⟩

theorem onlyNotes_fail (e : Error) : OnlyNotes (fail e : Run α) := fun s => ⟨[], by simp⟩

theorem OnlyNotes.bind {k : α → Run γ} (h : OnlyNotes x) (hk : ∀ a, OnlyNotes (k a)) :
    OnlyNotes (x >>= k) := by
  intro s
  obtain ⟨es, hes⟩ := h s
  rw [on_bind]
  generalize x.on s = p at hes ⊢
  obtain ⟨a, s'⟩ := p
  cases a with
  | error e => exact ⟨es, hes⟩
  | ok a =>
    obtain ⟨more, hmore⟩ := hk a s'
    refine ⟨es ++ more, ?_⟩
    rw [hmore, show s' = _ from hes, List.append_assoc]

theorem OnlyNotes.attempt (h : OnlyNotes x) : OnlyNotes (attempt x) := by
  intro s
  obtain ⟨es, hes⟩ := h s
  refine ⟨es, ?_⟩
  rw [on_attempt]
  generalize x.on s = p at hes ⊢
  obtain ⟨a, s'⟩ := p
  rcases a with (_ | _) | _ <;> exact hes

end Run

/-! ## Bodies -/

namespace Body

def Overlong (b : Body) : Prop := b.streamed = true ∧ maxBuffer < b.announced.getD 0

instance (b : Body) : Decidable b.Overlong := inferInstanceAs (Decidable (_ ∧ _))

def given (b : Body) : Except Fault Bytes :=
  match b.failure with
  | some m => .error (.error (.io m))
  | none => .ok b.content

def afterReading (b : Body) (s : Session) : Session :=
  if b.streamed then { s with journal := s.journal ++ [.read] } else s

theorem on_read (b : Body) (s : Session) : b.read.on s = (b.given, s) := by
  unfold read given
  cases b.failure <;> rfl

theorem on_toBytes (b : Body) (s : Session) :
    b.toBytes.on s = if b.Overlong then (.error (.crash .bufferTooLong), s) else (b.given,
      b.afterReading s) := by
  unfold toBytes afterReading
  by_cases hb : b.streamed = true
  · by_cases hlong : maxBuffer < b.announced.getD 0
    · rw [if_pos hb, if_pos hlong, if_pos ⟨hb, hlong⟩]
      rfl
    · rw [if_pos hb, if_pos hb, if_neg hlong, if_neg fun h => hlong h.2, Run.on_bind_ok (Run.on_note _ _), on_read]
  · rw [if_neg hb, if_neg hb, if_neg fun h => hb h.1, on_read]

def isReadable (b : Body) : Bool :=
  b.failure.isNone && (!b.streamed || decide (b.announced.getD 0 ≤ maxBuffer))

/-- The body as it is in memory, if it can be read. -/
def sealed (b : Body) : Body := if b.isReadable then buffered b.content else b

theorem isReadable_of_sealed {b b' : Body} (h : b.sealed = b'.sealed) (hb : b.isReadable = true) :
    b'.isReadable = true := by
  cases hb' : b'.isReadable with
  | true => rfl
  | false =>
    simp only [sealed, hb, hb', if_true, Bool.false_eq_true, if_false] at h
    rw [← h] at hb'
    cases hb'

theorem eq_of_sealed {b b' : Body} (h : b.sealed = b'.sealed) (hb : b.isReadable = false) :
    b' = b := by
  cases hb' : b'.isReadable with
  | true =>
    rw [isReadable_of_sealed h.symm hb'] at hb
    cases hb
  | false =>
    simp only [sealed, hb, hb', Bool.false_eq_true, if_false] at h
    exact h.symm

theorem isReadable_iff {b : Body} : b.isReadable = true ↔ ¬ b.Overlong ∧ b.failure = none := by
  rw [isReadable, Overlong, Bool.and_eq_true, Option.isNone_iff_eq_none, and_comm, not_and, Nat.not_lt]
  cases b.streamed <;> simp

theorem on_toBytes_of_isReadable {b : Body} (h : b.isReadable = true) (s : Session) :
    b.toBytes.on s = (.ok b.content, if b.streamed then { s with journal := s.journal ++ [.read] } else s) := by
  obtain ⟨hfits, hfailure⟩ := isReadable_iff.mp h
  rw [on_toBytes, if_neg hfits, given, hfailure]
  rfl

theorem onlyNotes_toBytes (b : Body) : b.toBytes.OnlyNotes := by
  intro s
  rw [on_toBytes]
  split
  · exact ⟨[], by simp⟩
  · unfold afterReading
    split
    · exact ⟨[.read], rfl⟩
    · exact ⟨[], by simp⟩

theorem seen_toBytes (b : Body) (s : Session) : (b.toBytes.on s).2.seen = s.seen := by
  rw [on_toBytes]
  split
  · rfl
  · unfold afterReading
    split
    · exact s.seen_append (by simp [Event.isOutward])
    · rfl

theorem toBytes_sealed (b : Body) (s t : Session) :
    (b.sealed.toBytes.on s).1 = (b.toBytes.on t).1 := by
  unfold sealed
  split
  · rename_i h
    rw [on_toBytes_of_isReadable h]
    rfl
  · rw [on_toBytes, on_toBytes]
    split <;> rfl

theorem alike_toBytes {b b' : Body} (h : b.sealed = b'.sealed) :
    Run.Alike id b.toBytes b'.toBytes := by
  intro s t hst
  have hresult : (b.toBytes.on s).1 = (b'.toBytes.on t).1 := by
    rw [← toBytes_sealed b s s, h, toBytes_sealed b' s t]
  simp only [Run.view, hresult, seen_toBytes, hst]

end Body

namespace Response

def sealed (r : Response) : Response := { r with body := r.body.map Body.sealed }

variable {r r' : Response}

theorem sealed_cases (h : r.sealed = r'.sealed) :
    r.body = none ∧ r' = r ∨ ∃ b b', r.body = some b ∧ r' = r.setBody (some b') ∧
    b.sealed = b'.sealed := by
  obtain ⟨status, reason, headers, body, request⟩ := r
  obtain ⟨status', reason', headers', body', request'⟩ := r'
  simp only [sealed, mk.injEq] at h
  obtain ⟨rfl, rfl, rfl, hbody, rfl⟩ := h
  cases body with
  | none =>
    cases body' with
    | none => exact .inl ⟨rfl, rfl⟩
    | some b' => cases hbody
  | some b =>
    cases body' with
    | none => cases hbody
    | some b' => exact .inr ⟨b, b', rfl, rfl, Option.some.inj hbody⟩

theorem alike_readText (h : r.sealed = r'.sealed) : Run.Alike id r.readText r'.readText := by
  unfold readText
  obtain ⟨hr, rfl⟩ | ⟨b, b', hr, rfl, hb⟩ := sealed_cases h
  · rw [hr]
    exact Run.alike_pure rfl
  · rw [hr]
    exact (Body.alike_toBytes hb).bind fun bs bs' hbs => Run.alike_pure (by rw [show bs = bs' from hbs])

end Response

def Output.sealed : Output → Output
  | .response r => .response r.sealed
  | o => o

/-! ## Decoders -/

/-- The decoder goes by the bytes of a body, however it is held, and leaves nothing but notes. -/
structure Decoder.Transparent (d : Decoder) : Prop where
  notes : ∀ r type, (d.decode r type).OnlyNotes
  alike : ∀ r r' type, r.sealed = r'.sealed →
    Run.Alike Output.sealed (d.decode r type) (d.decode r' type)

structure ErrorDecoder.Transparent (d : ErrorDecoder) : Prop where
  notes : ∀ key r, (d.decode key r).OnlyNotes
  alike : ∀ key r r', r.sealed = r'.sealed → Run.Alike id (d.decode key r) (d.decode key r')

theorem Run.onlyNotes_reading : Reading (fun {_} x => OnlyNotes x) where
  pure := onlyNotes_pure
  bind hx hk := hx.bind hk
  fail := onlyNotes_fail
  attempt hx := hx.attempt
  clock s := ⟨[], by simp⟩
  toBytes := Body.onlyNotes_toBytes

namespace Decoder

variable {r r' : Response}

theorem alike_string (h : r.sealed = r'.sealed) (type : TypeRef) :
    Run.Alike Output.sealed (string.decode r type) (string.decode r' type) := by
  have htext := Response.alike_readText h
  have hsame : r'.body.isNone = r.body.isNone ∧ r'.status = r.status := by
    obtain ⟨-, rfl⟩ | ⟨b, b', hr, rfl, -⟩ := Response.sealed_cases h
    · exact ⟨rfl, rfl⟩
    · rw [hr]; exact ⟨rfl, rfl⟩
  simp only [string, unsupported, hsame]
  split
  · exact Run.alike_pure rfl
  · split
    · exact Run.alike_fail _
    · exact htext.bind fun t t' ht => Run.alike_pure (by rw [show t = t' from ht])

theorem alike_plain (h : r.sealed = r'.sealed) (type : TypeRef) :
    Run.Alike Output.sealed (plain.decode r type) (plain.decode r' type) := by
  have hstring := alike_string h type
  simp only [plain]
  obtain ⟨hr, rfl⟩ | ⟨b, b', hr, rfl, hb⟩ := Response.sealed_cases h
  · rw [hr]
    split
    · exact Run.alike_pure rfl
    · split
      · exact Run.alike_pure rfl
      · exact hstring
  · rw [hr]
    show Run.Alike _ (if r.isEmpty = true then _ else _) (if r.isEmpty = true then _ else _)
    split
    · exact Run.alike_pure rfl
    · split
      · exact (Body.alike_toBytes hb).bind fun bs bs' hbs => Run.alike_pure (by rw [show bs = bs' from hbs])
      · exact hstring

theorem alike_json (h : r.sealed = r'.sealed) (type : TypeRef) :
    Run.Alike Output.sealed (json.decode r type) (json.decode r' type) := by
  simp only [json]
  obtain ⟨hr, rfl⟩ | ⟨b, b', hr, rfl, hb⟩ := Response.sealed_cases h
  · rw [hr]
    split <;> exact Run.alike_pure rfl
  · rw [hr]
    show Run.Alike _ (if r.isEmpty = true then _ else _) (if r.isEmpty = true then _ else _)
    split
    · exact Run.alike_pure rfl
    · refine (Body.alike_toBytes hb).bind fun bs bs' hbs => ?_
      obtain rfl : bs = bs' := hbs
      repeat' split
      all_goals first | exact Run.alike_pure rfl | exact Run.alike_fail _

theorem Stock.alike {d : Decoder} (hd : d.Stock) (h : r.sealed = r'.sealed) (type : TypeRef) :
    Run.Alike Output.sealed (d.decode r type) (d.decode r' type) := by
  induction hd generalizing type with
  | string => exact alike_string h type
  | plain => exact alike_plain h type
  | json => exact alike_json h type
  | optional _ ih =>
    have hempty : r'.isEmpty = r.isEmpty := by
      obtain ⟨-, rfl⟩ | ⟨b, b', -, rfl, -⟩ := Response.sealed_cases h <;> rfl
    simp only [Decoder.optional, hempty]
    split
    · exact ih type
    · split
      · exact Run.alike_pure rfl
      · exact ih _

theorem Stock.transparent {d : Decoder} (h : d.Stock) : d.Transparent :=
  ⟨h.decode Run.onlyNotes_reading, fun _ _ type hr => h.alike hr type⟩

end Decoder

theorem ErrorDecoder.plain_transparent : plain.Transparent := by
  refine ⟨plain_reading Run.onlyNotes_reading, fun key r r' h => ?_⟩
  have htext := (Response.alike_readText h).attempt
  have hsame : r'.request = r.request ∧ r'.headers = r.headers ∧
      r'.status = r.status ∧ r'.reason = r.reason := by
    obtain ⟨-, rfl⟩ | ⟨b, b', -, rfl, -⟩ := Response.sealed_cases h <;> exact ⟨rfl, rfl, rfl, rfl⟩
  simp only [plain, hsame]
  refine Run.alike_clock.bind fun now now' hnow => ?_
  obtain rfl : now = now' := hnow
  refine htext.bind fun raw raw' hraw => ?_
  have hraw : raw = raw' := by
    cases raw <;> cases raw' <;> simp_all [Except.map]
  subst hraw
  split <;> exact Run.alike_pure rfl

end DeclarativeHttp
