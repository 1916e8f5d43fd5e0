import DeclarativeHttp.Proofs.Logging

/-!
# Announced lengths

A body gives the bytes of its reader, whatever length the server announced, unless that is more than
a buffer can hold: such a body cannot be read at all (`Body.on_toBytes`). A call that does not
return the raw response is run twice here, with the announced lengths and without them. The second
run gives what the first one gives, step by step, unless the first one comes upon such a body.
-/

namespace DeclarativeHttp

/-! ## Bodies -/

namespace Body

/-- The body as if no length was announced. That of a body in memory is its own. -/
def unsized (b : Body) : Body := { b with announced := if b.streamed then none else b.announced }

theorem not_overlong_unsized (b : Body) : ¬ b.unsized.Overlong := by
  rintro ⟨hb, hlong⟩
  rw [unsized, show b.streamed = true from hb] at hlong
  exact Nat.not_lt_zero _ hlong

end Body

namespace Response

def Overlong (r : Response) : Prop := ∃ b, r.body = some b ∧ b.Overlong

def unsized (r : Response) : Response := { r with body := r.body.map Body.unsized }

structure Unsizes (p : Prop) (r r' : Response) : Prop where
  same : r' = r.unsized
  overlong : r.Overlong → p

end Response

/-! ## Sessions -/

def Reply.unsized (reply : Reply) : Reply := fun request => (reply request).map Response.unsized

namespace Session

def unsized (s : Session) : Session := { s with replies := s.replies.map Reply.unsized }

def Overlong (s : Session) : Prop :=
  ∃ reply ∈ s.replies, ∃ request r, reply request = .ok r ∧ r.Overlong

/-- The second session looks like the first one without lengths, which are overlong only if `p`. -/
structure Unsizes (p : Prop) (s t : Session) : Prop where
  seen : s.unsized.seen = t.seen
  overlong : s.Overlong → p

variable {p : Prop} {s t : Session}

theorem seen_append_eq (es : List Event) (u : Session) :
    ({ u with journal := u.journal ++ es } : Session).seen =
    { u.seen with journal := u.seen.journal ++ es.filter Event.isOutward } := by
  simp only [seen, outward, List.filter_append]

theorem Unsizes.append (h : s.Unsizes p t) {es es' : List Event}
    (hes : es.filter Event.isOutward = es'.filter Event.isOutward) :
    ({ s with journal := s.journal ++ es } : Session).Unsizes p { t with journal := t.journal ++ es' } := by
  refine ⟨?_, h.overlong⟩
  show ({ s.unsized with journal := s.unsized.journal ++ es } : Session).seen = _
  rw [seen_append_eq, seen_append_eq, h.seen, hes]

theorem Unsizes.afterReading (h : s.Unsizes p t) (b : Body) :
    (b.afterReading s).Unsizes p (b.afterReading t) := by
  unfold Body.afterReading
  split
  · exact h.append rfl
  · exact h

theorem Unsizes.afterSleep (h : s.Unsizes p t) (interval : Nat) :
    (s.afterSleep interval).Unsizes p (t.afterSleep interval) := by
  have hnoted : ({ s with journal := s.journal ++ [.slept interval] } : Session).Unsizes p
      { t with journal := t.journal ++ [.slept interval] } := h.append rfl
  have hsleeps : s.unsized.seen.sleeps = t.seen.sleeps := by rw [h.seen]
  refine ⟨?_, h.overlong⟩
  rw [Session.afterSleep, Session.afterSleep, show s.sleeps = t.sleeps from hsleeps]
  exact congrArg (fun u : Session => { u with sleeps := t.sleeps + 1 }) hnoted.seen

end Session

/-! ## Runs -/

namespace Run

variable {α β γ δ : Type} {p : Prop} {R : α → β → Prop} {Q : γ → δ → Prop}

/-- How two runs end that give the same but for announced
lengths. The first one may come upon an overlong body. -/
inductive Agrees (p : Prop) (R : α → β → Prop) :
    Except Fault α × Session → Except Fault β × Session → Prop where
  | crashed {s out} (h : p) : Agrees p R (.error (.crash .bufferTooLong), s) out
  | failed {e s t} (h : s.Unsizes p t) : Agrees p R (.error e, s) (.error e, t)
  | gave {a b s t} (hab : R a b) (h : s.Unsizes p t) : Agrees p R (.ok a, s) (.ok b, t)

theorem Agrees.cases_eq {out out' : Except Fault α × Session} (h : Agrees p Eq out out') :
    p ∧ out.1 = .error (.crash .bufferTooLong) ∨
    out.1 = out'.1 ∧ out.2.unsized.seen = out'.2.seen := by
  cases h with
  | crashed h => exact .inl ⟨h, rfl⟩
  | failed h => exact .inr ⟨rfl, h.seen⟩
  | gave hab h => exact .inr ⟨congrArg Except.ok hab, h.seen⟩

def Unsizes (p : Prop) (R : α → β → Prop) (x : Run α) (y : Run β) : Prop :=
  ∀ s t, s.Unsizes p t → Agrees p R (x.on s) (y.on t)

abbrev Heedless (p : Prop) (x : Run α) : Prop := Unsizes p Eq x x

variable {x : Run α} {y : Run β}

theorem unsizes_pure {a : α} {b : β} (h : R a b) : Unsizes p R (pure a) (pure b) :=
  fun _ _ hst => .gave h hst

theorem unsizes_fail (e : Error) : Unsizes p R (fail e) (fail e) := fun _ _ hst => .failed hst

theorem unsizes_crash (c : Crash) : Unsizes p R (crash c) (crash c) := fun _ _ hst => .failed hst

theorem unsizes_get : Unsizes p (Session.Unsizes p) (get : Run Session) (get : Run Session) :=
  fun _ _ hst => .gave hst hst

theorem heedless_pure (a : α) : Heedless p (pure a) := unsizes_pure rfl

theorem heedless_ofExcept (a : Except Error α) : Heedless p (ofExcept a) := by
  cases a with
  | ok a => exact heedless_pure a
  | error e => exact unsizes_fail e

theorem heedless_clock : Heedless p clock := by
  intro s t hst
  have hnow : s.unsized.seen.now = t.seen.now := by rw [hst.seen]
  exact .gave hnow hst

theorem Unsizes.bind {k : α → Run γ} {l : β → Run δ} (h : Unsizes p R x y)
    (hk : ∀ a b, R a b → Unsizes p Q (k a) (l b)) : Unsizes p Q (x >>= k) (y >>= l) := by
  intro s t hst
  rw [on_bind, on_bind]
  have hends := h s t hst
  generalize x.on s = out at hends ⊢
  generalize y.on t = out' at hends ⊢
  cases hends with
  | crashed h => exact .crashed h
  | failed h => exact .failed h
  | gave hab h => exact hk _ _ hab _ _ h

theorem Heedless.bind {k : α → Run γ} {l : α → Run δ} (h : Heedless p x)
    (hk : ∀ a, Unsizes p Q (k a) (l a)) : Unsizes p Q (x >>= k) (x >>= l) := by
  refine Unsizes.bind h fun a b hab => ?_
  obtain rfl := hab
  exact hk a

theorem heedless_closed : Closed (fun {_} x => Heedless p x) :=
  ⟨heedless_pure, fun hx hk => hx.bind hk⟩

theorem Unsizes.attempt_bind {k : Except Error α → Run γ} {l : Except Error β → Run δ}
    (h : Unsizes p R x y) (hok : ∀ a b, R a b → Unsizes p Q (k (.ok a)) (l (.ok b)))
    (herror : ∀ e, Unsizes p Q (k (.error e)) (l (.error e))) :
    Unsizes p Q (attempt x >>= k) (attempt y >>= l) := by
  intro s t hst
  rw [on_bind, on_bind, on_attempt, on_attempt]
  have hends := h s t hst
  generalize x.on s = out at hends ⊢
  generalize y.on t = out' at hends ⊢
  cases hends with
  | crashed h => exact .crashed h
  | @failed e _ _ h =>
    cases e with
    | error e => exact herror e _ _ h
    | crash c => exact .failed h
  | gave hab h => exact hok _ _ hab _ _ h

theorem Unsizes.mapError (h : Unsizes p R x y) (f : Error → Error) :
    Unsizes p R (mapError f x) (mapError f y) :=
  h.attempt_bind (fun _ _ hab => unsizes_pure hab) fun e => unsizes_fail (f e)

end Run

def Quiet.Logs (x : Quiet Unit) : Prop :=
  ∀ s, ∃ es, es.filter Event.isOutward = [] ∧ (x.run s).2 = { s with journal := s.journal ++ es }

theorem Run.unsizes_logs {p : Prop} {x y : Quiet Unit} (hx : x.Logs) (hy : y.Logs) :
    Unsizes p Eq (liftM x : Run Unit) (liftM y : Run Unit) := by
  intro s t hst
  obtain ⟨es, hes, hs⟩ := hx s
  obtain ⟨es', hes', ht⟩ := hy t
  rw [on_quiet, on_quiet, hs, ht]
  exact .gave rfl (hst.append (hes.trans hes'.symm))

/-! ## Reading -/

section
variable {p : Prop}

theorem Body.unsizes_toBytes {b : Body} (hb : b.Overlong → p) :
    Run.Unsizes p Eq b.toBytes b.unsized.toBytes := by
  intro s t hst
  rw [on_toBytes, on_toBytes, if_neg b.not_overlong_unsized]
  by_cases hlong : b.Overlong
  · rw [if_pos hlong]
    exact .crashed (hb hlong)
  · rw [if_neg hlong, show b.unsized.given = b.given from rfl]
    have hread : (b.afterReading s).Unsizes p (b.unsized.afterReading t) := hst.afterReading b
    cases b.given with
    | ok bs => exact .gave rfl hread
    | error f => exact .failed hread

namespace Response

variable {r r' : Response}

theorem Unsizes.cases (h : r.Unsizes p r') : r.body = none ∧ r' = r ∨
    ∃ b, r.body = some b ∧ r' = r.setBody (some b.unsized) ∧ (b.Overlong → p) := by
  obtain ⟨rfl, hlong⟩ := h
  obtain ⟨status, reason, headers, body, request⟩ := r
  cases body with
  | none => exact .inl ⟨rfl, rfl⟩
  | some b => exact .inr ⟨b, rfl, rfl, fun hb => hlong ⟨b, rfl, hb⟩⟩

theorem unsizes_readText (h : r.Unsizes p r') : Run.Unsizes p Eq r.readText r'.readText := by
  unfold readText
  obtain ⟨hr, rfl⟩ | ⟨b, hr, rfl, hb⟩ := h.cases
  · rw [hr]
    exact Run.heedless_pure _
  · rw [hr]
    refine (Body.unsizes_toBytes hb).bind fun bs bs' hbs => ?_
    exact Run.unsizes_pure (congrArg Utf8.toStringLossy hbs)

end Response

end

def Decoder.Heedless (d : Decoder) : Prop :=
  ∀ p r r' type, Response.Unsizes p r r' → Run.Unsizes p Eq (d.decode r type) (d.decode r' type)

def ErrorDecoder.Heedless (d : ErrorDecoder) : Prop :=
  ∀ p key r r', Response.Unsizes p r r' → Run.Unsizes p Eq (d.decode key r) (d.decode key r')

namespace Decoder

theorem string_heedless : string.Heedless := by
  intro p r r' type h
  have htext := Response.unsizes_readText h
  have hsame : r'.body.isNone = r.body.isNone ∧ r'.status = r.status := by
    obtain ⟨-, rfl⟩ | ⟨b, hr, rfl, -⟩ := h.cases
    · exact ⟨rfl, rfl⟩
    · rw [hr]; exact ⟨rfl, rfl⟩
  simp only [string, unsupported, hsame]
  split
  · exact Run.heedless_pure _
  · split
    · exact Run.unsizes_fail _
    · exact htext.bind fun t t' ht => Run.unsizes_pure (congrArg Output.text ht)

theorem plain_heedless : plain.Heedless := by
  intro p r r' type h
  have hstring := string_heedless p r r' type h
  have hempty : r'.isEmpty = r.isEmpty := by rw [h.same]; rfl
  simp only [plain, hempty]
  split
  · exact Run.heedless_pure _
  · split
    · obtain ⟨hr, rfl⟩ | ⟨b, hr, rfl, hb⟩ := h.cases
      · rw [hr]
        exact Run.heedless_pure _
      · rw [hr]
        exact (Body.unsizes_toBytes hb).bind fun bs bs' hbs => Run.unsizes_pure (congrArg Output.bytes hbs)
    · exact hstring

theorem json_heedless : json.Heedless := by
  intro p r r' type h
  have hempty : r'.isEmpty = r.isEmpty := by rw [h.same]; rfl
  simp only [json, hempty]
  split
  · exact Run.heedless_pure _
  · obtain ⟨hr, rfl⟩ | ⟨b, hr, rfl, hb⟩ := h.cases
    · rw [hr]
      exact Run.heedless_pure _
    · rw [hr]
      refine (Body.unsizes_toBytes hb).bind fun bs bs' hbs => ?_
      obtain rfl : bs = bs' := hbs
      repeat' split
      all_goals first | exact Run.heedless_pure _ | exact Run.unsizes_fail _

theorem Stock.heedless {d : Decoder} (h : d.Stock) : d.Heedless := by
  induction h with
  | string => exact string_heedless
  | plain => exact plain_heedless
  | json => exact json_heedless
  | optional _ ih =>
    intro p r r' type h
    have hempty : r'.isEmpty = r.isEmpty := by rw [h.same]; rfl
    simp only [Decoder.optional, hempty]
    split
    · exact ih p r r' type h
    · split
      · exact Run.heedless_pure _
      · exact ih p r r' _ h

end Decoder

theorem ErrorDecoder.plain_heedless : plain.Heedless := by
  intro p key r r' h
  have hsame : r'.request = r.request ∧ r'.headers = r.headers ∧ r'.status = r.status ∧
      r'.reason = r.reason := by
    rw [h.same]
    exact ⟨rfl, rfl, rfl, rfl⟩
  obtain ⟨hrequest, hheaders, hstatus, hreason⟩ := hsame
  simp only [plain, hrequest, hheaders, hstatus, hreason]
  refine Run.heedless_clock.bind fun now => (Response.unsizes_readText h).attempt_bind ?_ fun _ => ?_
  · intro raw raw' hraw
    rw [show raw = raw' from hraw]
    split <;> exact Run.heedless_pure _
  · split <;> exact Run.heedless_pure _

/-! ## Logging -/

/-- The logger shows what it likes, but gives a response
back as it came, or with its body in memory. -/
structure Logger.Heedless (l : Logger) : Prop where
  request : ∀ key level r, (l.request key level r).Logs
  retry : ∀ key level, (l.retry key level).Logs
  ioError : ∀ key level e elapsed, (l.ioError key level e elapsed).Logs
  response : ∀ p key level r r' elapsed, Response.Unsizes p r r' →
    Run.Unsizes p (Response.Unsizes p) (l.response key level r elapsed) (l.response key level r' elapsed)

namespace Logger

theorem logs_write (form : String → String → List String) (key : String) (lines : List String) :
    (write form key lines).Logs := by
  refine fun s => ⟨(lines.flatMap (form key)).map fun l => .logged key l, ?_, rfl⟩
  refine List.filter_eq_nil_iff.mpr fun e he => ?_
  obtain ⟨l, -, rfl⟩ := List.mem_map.mp he
  exact Bool.false_ne_true

theorem standard_heedless (form : String → String → List String) : (standard form).Heedless := by
  refine ⟨fun _ _ _ => logs_write _ _ _, fun _ _ => logs_write _ _ _, fun _ _ _ _ => logs_write _ _ _, ?_⟩
  intro p key level r r' elapsed h
  have hlines : responseLines level r' elapsed = responseLines level r elapsed := by
    rw [h.same]
    rfl
  simp only [standard, hlines]
  refine (Run.unsizes_logs (logs_write _ _ _) (logs_write _ _ _)).bind fun _ _ _ => ?_
  split
  · exact Run.unsizes_pure h
  · -- the last line shows the announced length, so the two runs may write different lines there
    have hend : ∀ n n', Run.Unsizes p (Response.Unsizes p)
        (do liftM (write form key [endLine n]); pure r : Run Response)
        (do liftM (write form key [endLine n']); pure r' : Run Response) := fun n n' =>
      (Run.unsizes_logs (logs_write _ _ _) (logs_write _ _ _)).bind fun _ _ _ => Run.unsizes_pure h
    obtain ⟨hr, rfl⟩ | ⟨b, hr, rfl, hb⟩ := h.cases
    · rw [hr]
      cases level.atLeast .full <;> exact hend _ _
    · rw [hr]
      cases level.atLeast .full with
      | false => exact hend _ _
      | true =>
        refine (Body.unsizes_toBytes hb).bind fun bs bs' hbs => ?_
        obtain rfl : bs = bs' := hbs
        refine (Run.unsizes_logs (logs_write _ _ _) (logs_write _ _ _)).bind fun _ _ _ =>
          Run.unsizes_pure ⟨rfl, ?_⟩
        -- what was read for the log is in memory now
        rintro ⟨b', hb', hlong⟩
        cases hb'
        cases hlong.1

theorem Shows.heedless {l : Logger} {shows : Bool} (h : l.Shows shows) : l.Heedless := by
  cases h with
  | standard form => exact standard_heedless form
  | off =>
    have hnothing : Quiet.Logs (pure ()) := fun s => ⟨[], rfl, by rw [List.append_nil]; rfl⟩
    exact ⟨fun _ _ _ => hnothing, fun _ _ => hnothing, fun _ _ _ _ => hnothing,
      fun _ _ _ _ _ _ h => Run.unsizes_pure h⟩

end Logger

/-! ## Arguments -/

def Encoder.Heedless (e : Encoder) : Prop := ∀ p a type t, (e.encode a type t).Heedless p

def QueryMapEncoder.Heedless (e : QueryMapEncoder) : Prop := ∀ p v, (e.encode v).Heedless p

theorem Encoder.Stock.heedless {e : Encoder} (h : e.Stock) : e.Heedless :=
  fun _ => h.encode Run.heedless_pure Run.unsizes_fail

theorem QueryMapEncoder.members_heedless : members.Heedless :=
  fun _ => members_encode Run.heedless_pure Run.unsizes_fail

namespace Binding

variable {p : Prop} {encoder : Encoder} {queries : QueryMapEncoder} {m : Metadata} {args : List Arg}

theorem heedless_create (hencoder : encoder.Heedless) (hqueries : queries.Heedless) :
    Run.Heedless p (create encoder queries m args) := by
  refine create_closed Run.heedless_closed (fun msg => Run.unsizes_fail _) (fun _ k _ => ?_)
    (fun a type t => (hencoder p a type t).mapError _) (hqueries p)
  unfold argument
  split
  · exact Run.heedless_pure _
  · exact Run.unsizes_crash _

end Binding

/-! ## Attempts -/

theorem Transport.unsizes_replies {p : Prop} (request : Request) (options : Options) : Run.Unsizes p
    (Response.Unsizes p) (replies.execute request options) (replies.execute request options) := by
  intro s t hst
  have hreplies : t.replies = s.replies.map Reply.unsized := congrArg Session.replies hst.seen.symm
  have hsent : ({ s with journal := s.journal ++ [.sent request options] } : Session).Unsizes p
      { t with journal := t.journal ++ [.sent request options] } := hst.append rfl
  cases hs : s.replies with
  | nil =>
    rw [replies_nil hs, replies_nil (by rw [hreplies, hs]; rfl)]
    exact .failed hsent
  | cons reply rest =>
    have ht : t.replies = reply.unsized :: rest.map Reply.unsized := by rw [hreplies, hs]; rfl
    rw [replies_cons hs, replies_cons ht]
    have hrest : ({ s with journal := s.journal ++ [.sent request options], replies := rest } : Session).Unsizes p
        { t with journal := t.journal ++ [.sent request options], replies := rest.map Reply.unsized } := by
      refine ⟨congrArg (fun u : Session => { u with replies := rest.map Reply.unsized }) hsent.seen, ?_⟩
      rintro ⟨other, hother, hlong⟩
      exact hst.overlong ⟨other, hs ▸ List.mem_cons_of_mem reply hother, hlong⟩
    cases hr : reply request with
    | error e =>
      rw [Reply.unsized, hr]
      exact .failed hrest
    | ok r =>
      rw [Reply.unsized, hr]
      exact .gave ⟨rfl, fun hlong => hst.overlong ⟨reply, hs ▸ List.mem_cons_self, request, r, hr, hlong⟩⟩ hrest

theorem Retryer.heedless_judge {p : Prop} (r : Retryer) (e : Error) :
    Run.Heedless p (r.judge e) := by
  intro s t hst
  have hsame : s.unsized.seen.now = t.seen.now ∧ s.unsized.seen.share = t.seen.share ∧
      s.unsized.seen.cutsNext = t.seen.cutsNext := by
    rw [hst.seen]
    exact ⟨rfl, rfl, rfl⟩
  obtain ⟨v, pause, h⟩ := r.judge_shape e s
  rw [h s rfl rfl rfl, h t hsame.1.symm hsame.2.1.symm hsame.2.2.symm]
  have hafter : (pause.elim s s.afterSleep).Unsizes p (pause.elim t t.afterSleep) := by
    cases pause with
    | none => exact hst
    | some interval => exact hst.afterSleep interval
  cases v with
  | error f => exact .failed hafter
  | ok v => exact .gave rfl hafter

namespace Components

/-- The transport has its replies ready, and no part of the client goes by announced lengths. -/
structure Heedless (c : Components) : Prop where
  transport : c.transport = Transport.replies
  retryPolicy : ∀ p, c.retryPolicy.fresh.Heedless p
  logger : c.logger.Heedless
  encoder : c.encoder.Heedless
  queryMapEncoder : c.queryMapEncoder.Heedless
  decoder : c.decoder.Heedless
  errorDecoder : c.errorDecoder.Heedless

variable {p : Prop} {c : Components} {m : Metadata} {target : Target} {template : RequestTemplate}
  {options : Options}

theorem heedless_onLevel {x : Quiet Unit} (h : x.Logs) : Run.Heedless p (c.onLevel x) := by
  unfold onLevel
  split
  · exact Run.unsizes_logs h h
  · exact Run.heedless_pure _

theorem unsizes_receive (hc : c.Heedless) (request : Request) {r r' : Response}
    (h : r.Unsizes p r') :
    Run.Unsizes p (Response.Unsizes p) (c.receive m request (.ok r)) (c.receive m request (.ok r')) := by
  have hlabelled : (labelled request r).Unsizes p (labelled request r') := by
    obtain ⟨rfl, hlong⟩ := h
    refine ⟨?_, fun hl => hlong ?_⟩
    · unfold labelled
      show (if r.request.isSome = true then _ else _) = Response.unsized (if r.request.isSome = true then _ else _)
      split <;> rfl
    · rwa [Response.Overlong, body_labelled] at hl
  show Run.Unsizes p _
    (if c.logLevel.isOn then get >>= fun s => c.logger.response m.configKey c.logLevel (labelled request r) s.elapsed
      else pure (labelled request r))
    (if c.logLevel.isOn then get >>= fun s => c.logger.response m.configKey c.logLevel (labelled request r') s.elapsed
      else pure (labelled request r'))
  split
  · refine Run.unsizes_get.bind fun s t hst => ?_
    have helapsed : s.unsized.seen.elapsed = t.seen.elapsed := by rw [hst.seen]
    rw [show s.elapsed = t.elapsed from helapsed]
    exact hc.logger.response p _ _ _ _ _ hlabelled
  · exact Run.unsizes_pure hlabelled

theorem unsizes_receive_error (hc : c.Heedless) (request : Request) (e : Error) :
    Run.Unsizes p (Response.Unsizes p) (c.receive m request (.error e)) (c.receive m request (.error e)) := by
  rw [receive]
  split
  · refine Run.unsizes_get.bind fun s t hst => ?_
    have helapsed : s.unsized.seen.elapsed = t.seen.elapsed := by rw [hst.seen]
    rw [show s.elapsed = t.elapsed from helapsed]
    exact (heedless_onLevel (hc.logger.ioError _ _ _ _)).bind fun _ => Run.unsizes_fail _
  · exact Run.unsizes_fail _

theorem unsizes_handleResponse (hc : c.Heedless) (hm : m.returnType.isResponse = false)
    {r r' : Response} (h : r.Unsizes p r') :
    Run.Unsizes p Eq (c.handleResponse m r) (c.handleResponse m r') := by
  have hstatus : r'.status = r.status := by rw [h.same]; rfl
  have hdecode : Run.Unsizes p Eq (c.decode m r) (c.decode m r') := by
    rw [decode, decode, hstatus]
    exact (hc.decoder p r r' _ h).mapError _
  have hfail : Run.Unsizes p Eq (c.errorDecoder.decode m.configKey r >>= fun e => Run.fail (α := Output) e)
      (c.errorDecoder.decode m.configKey r' >>= fun e => Run.fail e) :=
    (hc.errorDecoder p _ r r' h).bind fun e e' he => by rw [show e = e' from he]; exact Run.unsizes_fail e'
  unfold handleResponse
  rw [hstatus, hm]
  split
  · rename_i h
    cases h
  · split
    · split
      · exact Run.heedless_pure _
      · exact hdecode
    · split
      · exact hdecode
      · exact hfail

theorem heedless_executeAndDecode (hc : c.Heedless) (hm : m.returnType.isResponse = false) :
    Run.Heedless p (c.executeAndDecode target m template options) := by
  unfold executeAndDecode
  refine (Run.heedless_ofExcept _).bind fun request => ?_
  refine Run.Unsizes.bind (R := Response.Unsizes p) ?_ fun r r' hr => unsizes_handleResponse hc hm hr
  unfold send
  rw [hc.transport]
  refine (heedless_onLevel (hc.logger.request _ _ _)).bind fun _ => ?_
  exact (Transport.unsizes_replies request options).attempt_bind (fun r r' hr => unsizes_receive hc request hr)
    (unsizes_receive_error hc request)

theorem heedless_attempts (hc : c.Heedless) {once : Run Output} (honce : Run.Heedless p once)
    (r : Retryer) :
    Run.Heedless p (c.attempts m once r) := by
  -- on the number of attempts that are left
  induction hn : r.attemptsLeft using Nat.strongRecOn generalizing r with
  | ind n ih =>
    rw [attempts]
    refine Run.Unsizes.attempt_bind honce (fun o o' ho => Run.unsizes_pure ho) fun e => ?_
    cases e with
    | retryable =>
      refine (r.heedless_judge _).bind fun verdict => ?_
      rcases verdict with ⟨r', hlt⟩ | r'
      · exact (heedless_onLevel (hc.logger.retry _ _)).bind fun _ => ih _ (hn ▸ hlt) r' rfl
      · exact Run.unsizes_fail _
    | _ => exact Run.unsizes_fail _

theorem heedless_call (hc : c.Heedless) (hm : m.returnType.isResponse = false) (args : List Arg) :
    Run.Heedless p (c.call target m args) := by
  unfold call
  refine (Binding.heedless_create hc.encoder hc.queryMapEncoder).bind fun t => ?_
  have hintercept : Run.Heedless p (intercept c.interceptors t) := by
    intro s u hst
    exact .gave rfl (hst.append rfl)
  refine hintercept.bind fun t => (hc.retryPolicy p).bind fun r => ?_
  exact heedless_attempts hc (heedless_executeAndDecode hc hm) r

/-- Announced lengths do not count. A body is read as its reader gives it, unless its length is more
than a buffer can hold; and calls that find the same replies but for announced lengths end alike and
do the same, unless one of them has such a body to come and crashes on it. -/
theorem call_announced (hc : c.Heedless) (target : Target) (hm : m.returnType.isResponse = false)
    (args : List Arg) {s t : Session} (hst : s.unsized = t.unsized) :
    (∀ (b : Body) (u : Session), b.toBytes.on u =
      if b.Overlong then (.error (.crash .bufferTooLong), u) else (b.given, b.afterReading u)) ∧
    let x := (c.call target m args).on s
    let y := (c.call target m args).on t
    s.Overlong ∧ x.1 = .error (.crash .bufferTooLong) ∨
    t.Overlong ∧ y.1 = .error (.crash .bufferTooLong) ∨
      x.1 = y.1 ∧ x.2.unsized.seen = y.2.unsized.seen := by
  -- both runs are compared with the one that finds no lengths
  have hends : ∀ u : Session, u.Overlong ∧ ((c.call target m args).on u).1 = .error (.crash .bufferTooLong) ∨
      ((c.call target m args).on u).1 = ((c.call target m args).on u.unsized).1 ∧
        ((c.call target m args).on u).2.unsized.seen =
          ((c.call target m args).on u.unsized).2.seen :=
    fun u => (heedless_call hc hm args u u.unsized ⟨rfl, id⟩).cases_eq
  refine ⟨Body.on_toBytes, ?_⟩
  obtain hs | ⟨hs, hs'⟩ := hends s
  · exact .inl hs
  obtain ht | ⟨ht, ht'⟩ := hends t
  · exact .inr (.inl ht)
  rw [hst] at hs hs'
  exact .inr (.inr ⟨hs.trans ht.symm, hs'.trans ht'.symm⟩)

/-- An answer of unknown length gives what it gives
with its length, also where everything is logged. -/
theorem call_announced_known :
    let c := (ClientBuilder.build { ClientBuilder.default with logger := Logger.plain, logLevel := .full }).components
    let target := Target.fixed (.mk "Api" [] [] [] []) "api" "http://localhost"
    let m := (Metadata.new "Api#get()" "get" (.simple "String") []).updateTemplate fun t =>
      (t.setMethod .get).appendUri "/status".toList
    let s (announced : Option Nat) : Session := ⟨0, 7, [fun _ => .ok ⟨.ok, none, .empty,
      some ⟨Utf8.ofString "well", none, announced, true⟩, none⟩], 0, fun _ => false, id, []⟩
    c.Heedless ∧ m.returnType.isResponse = false ∧ (s none).unsized = (s (some 4)).unsized ∧
    ((c.call target m []).on (s none)).1 = ((c.call target m []).on (s (some 4))).1 := by
  intro c target m s
  have hc : c.Heedless := ⟨rfl, fun _ => Run.heedless_pure _, (Logger.Shows.standard _).heedless,
    Encoder.Stock.plain.heedless, QueryMapEncoder.members_heedless, Decoder.Stock.plain.heedless,
    ErrorDecoder.plain_heedless⟩
  have hfits : ∀ announced, announced.getD 0 ≤ maxBuffer → ¬ (s announced).Overlong := by
    rintro announced hle ⟨reply, hreply, request, r, hr, b, hb, hlong⟩
    obtain rfl := List.mem_singleton.mp hreply
    cases hr
    cases hb
    exact Nat.not_lt.mpr hle hlong.2
  obtain ⟨-, hx | hy | ⟨h, -⟩⟩ :=
    call_announced hc target (m := m) rfl [] (s := s none) (t := s (some 4)) rfl
  · exact absurd hx.1 (hfits none (Nat.zero_le _))
  · exact absurd hy.1 (hfits (some 4) (by decide))
  · exact ⟨hc, rfl, rfl, h⟩

end Components

/-- A text is read if its length is not known, and cannot
be read if it is said to be that of the largest number. -/
theorem Decoder.string_overlong :
    let r (announced : Option Nat) : Response :=
      ⟨.ok, none, .empty, some ⟨Utf8.ofString "ok", none, announced, true⟩, none⟩
    let s : Session := ⟨0, 0, [], 0, fun _ => false, id, []⟩
    ((string.decode (r none) (.simple "String")).on s).1 = .ok (.text "ok") ∧
      ((string.decode (r (some 0xFFFFFFFFFFFFFFFF)) (.simple "String")).on s).1 = .error (.crash .bufferTooLong) ∧
      Crash.bufferTooLong.message = "capacity overflow" :=
  ⟨rfl, rfl, rfl⟩

end DeclarativeHttp
