import DeclarativeHttp.Codec.Decoder
import DeclarativeHttp.Codec.Encoder
import DeclarativeHttp.Log
import DeclarativeHttp.Proofs.Run

/-!
# Stock components

The encoders, decoders and loggers that there are. An encoder of them fails or writes a body
(`Encoder.Stock.encode_cases`), and does nothing else. A decoder or logger of them only reads bodies
and writes lines, so its runs are of every kind that these are of.
-/

namespace DeclarativeHttp

/-! ## Encoders -/

namespace Encoder

inductive Stock : Encoder → Prop where
  | plain : Stock plain
  | json : Stock json
  | form {other : Encoder} (h : Stock other) : Stock (form other)

variable {e : Encoder} {t : RequestTemplate}

theorem Stock.encode_cases (h : e.Stock) (a : Arg) (type : TypeRef) (t : RequestTemplate) :
    (∃ f, e.encode a type t = Run.fail f) ∨
      ∃ t' bs, (t' = t ∨ ∃ name, t' = declareType name t) ∧
        e.encode a type t = pure (t'.setBody bs) := by
  induction h with
  | plain =>
    simp only [Encoder.plain]
    split
    · exact .inr ⟨t, _, .inl rfl, rfl⟩
    · exact .inr ⟨t, _, .inl rfl, rfl⟩
    · exact .inl ⟨_, rfl⟩
  | json =>
    simp only [Encoder.json]
    split
    · exact .inr ⟨_, _, .inr ⟨_, rfl⟩, rfl⟩
    · exact .inr ⟨_, _, .inr ⟨_, rfl⟩, rfl⟩
    · exact .inr ⟨_, _, .inr ⟨_, rfl⟩, rfl⟩
    · exact .inl ⟨_, rfl⟩
    · exact .inl ⟨_, rfl⟩
  | form _ ih =>
    simp only [Encoder.form]
    split
    · exact .inr ⟨_, _, .inr ⟨_, rfl⟩, rfl⟩
    · exact ih

theorem Stock.encode {P : Run RequestTemplate → Prop} (h : e.Stock) (hpure : ∀ t, P (pure t))
    (hfail : ∀ f, P (Run.fail f)) (a : Arg) (type : TypeRef) (t : RequestTemplate) :
    P (e.encode a type t) := by
  obtain ⟨f, hf⟩ | ⟨t', bs, -, hbs⟩ := h.encode_cases a type t
  · exact hf ▸ hfail f
  · exact hbs ▸ hpure _

theorem Stock.encode_ok (h : e.Stock) {a : Arg} {type : TypeRef} {s s' : Session}
    {t' : RequestTemplate} (hencode : (e.encode a type t).on s = (.ok t', s')) :
    ∃ bs, t' = t.setBody bs ∨ ∃ name, t' = (declareType name t).setBody bs := by
  obtain ⟨f, hf⟩ | ⟨u, bs, hu, hbs⟩ := h.encode_cases a type t
  · rw [hf] at hencode
    cases hencode
  · rw [hbs] at hencode
    cases hencode
    obtain rfl | ⟨name, rfl⟩ := hu
    · exact ⟨bs, .inl rfl⟩
    · exact ⟨bs, .inr ⟨name, rfl⟩⟩

end Encoder

theorem QueryMapEncoder.members_encode {P : Run (List (String × Json)) → Prop}
    (hpure : ∀ ms, P (pure ms)) (hfail : ∀ f, P (Run.fail f)) (v : Json) :
    P (members.encode v) := by
  simp only [members]
  split
  · exact hpure _
  · exact hpure _
  · exact hfail _

/-! ## Decoders -/

/-- A kind of run that reading a body is of, and all else that a decoder does. -/
structure Run.Reading (P : ∀ {α : Type}, Run α → Prop) : Prop extends Run.Closed P where
  fail {α : Type} (e : Error) : P (Run.fail e : Run α)
  attempt {α : Type} {x : Run α} (hx : P x) : P (Run.attempt x)
  clock : P Run.clock
  toBytes (b : Body) : P b.toBytes

variable {P : ∀ {α : Type}, Run α → Prop}

theorem Run.Reading.readText (hP : Run.Reading P) (r : Response) : P r.readText := by
  unfold Response.readText
  split
  · exact hP.bind (hP.toBytes _) fun _ => hP.pure _
  · exact hP.pure _

theorem Run.Reading.mapError (hP : Run.Reading P) {α : Type} {x : Run α} (hx : P x)
    (f : Error → Error) :
    P (Run.mapError f x) := by
  refine hP.bind (hP.attempt hx) fun a => ?_
  cases a with
  | error e => exact hP.fail _
  | ok a => exact hP.pure a

namespace Decoder

inductive Stock : Decoder → Prop where
  | string : Stock string
  | plain : Stock plain
  | json : Stock json
  | optional {other : Decoder} (h : Stock other) : Stock (optional other)

theorem string_reading (hP : Run.Reading P) (r : Response) (type : TypeRef) :
    P (string.decode r type) := by
  simp only [string]
  split
  · exact hP.pure _
  · split
    · exact hP.fail _
    · exact hP.bind (hP.readText r) fun _ => hP.pure _

theorem Stock.decode {d : Decoder} (h : d.Stock) (hP : Run.Reading P) (r : Response)
    (type : TypeRef) :
    P (d.decode r type) := by
  induction h generalizing type with
  | string => exact string_reading hP r type
  | plain =>
    simp only [Decoder.plain]
    split
    · exact hP.pure _
    · split
      · split
        · exact hP.bind (hP.toBytes _) fun _ => hP.pure _
        · exact hP.pure _
      · exact string_reading hP r type
  | json =>
    simp only [Decoder.json]
    split
    · exact hP.pure _
    · split
      · exact hP.pure _
      · refine hP.bind (hP.toBytes _) fun bs => ?_
        repeat' split
        all_goals first | exact hP.pure _ | exact hP.fail _
  | optional _ ih =>
    simp only [Decoder.optional]
    split
    · exact ih type
    · split
      · exact hP.pure _
      · exact ih _

end Decoder

theorem ErrorDecoder.plain_reading (hP : Run.Reading P) (key : String) (r : Response) :
    P (plain.decode key r) := by
  simp only [plain]
  refine hP.bind hP.clock fun now => ?_
  refine hP.bind (hP.attempt (hP.readText r)) fun raw => ?_
  split <;> exact hP.pure _

/-! ## Loggers -/

inductive Logger.Shows : Logger → Bool → Prop where
  | standard (form : String → String → List String) : Shows (Logger.standard form) true
  | off : Shows Logger.off false

theorem Logger.Shows.response {l : Logger} {shows : Bool} (h : l.Shows shows) (hP : Run.Reading P)
    (hwrite : ∀ form key lines, P (liftM (write form key lines) : Run Unit)) (key : String)
    (level : LogLevel) (r : Response) (elapsed : Nat) : P (l.response key level r elapsed) := by
  cases h with
  | off => exact hP.pure r
  | standard form =>
    simp only [Logger.standard]
    refine hP.bind (hwrite form key _) fun _ => ?_
    split
    · exact hP.pure r
    · split
      · exact hP.bind (hP.toBytes _) fun bs => hP.bind (hwrite form key _) fun _ => hP.pure _
      · exact hP.bind (hwrite form key _) fun _ => hP.pure r

end DeclarativeHttp
