import DeclarativeHttp.Proofs.Attempts
import DeclarativeHttp.Proofs.Binding

/-!
# What a call sends

A journal tells which requests went out, each with its options. Nothing but the transport of a
client sends any, if its parts are its own (`Components.SendsOnce`): to bind arguments, to log, to
decode and to pause leaves the list alone. So the requests that a call sends are those of its
attempts, one for each (`Tries.sent`).
-/

namespace DeclarativeHttp

def Event.sent? : Event → Option (Request × Options)
  | .sent request options => some (request, options)
  | .read | .slept _ | .logged .. | .noted _ => none

def Session.sent (s : Session) : List (Request × Options) := s.journal.filterMap Event.sent?

theorem Session.sent_append (es : List Event) (s : Session) :
    ({ s with journal := s.journal ++ es } : Session).sent = s.sent ++ es.filterMap Event.sent? :=
  List.filterMap_append

/-! ## Runs that send nothing -/

namespace Run

variable {α β : Type} {x : Run α}

def SendsNothing (x : Run α) : Prop := ∀ s, (x.on s).2.sent = s.sent

theorem SendsNothing.bind {k : α → Run β} (hx : SendsNothing x) (hk : ∀ a, SendsNothing (k a)) :
    SendsNothing (x >>= k) := by
  intro s
  have hs := hx s
  cases hon : x.on s with
  | mk r t =>
    rw [hon] at hs
    cases r with
    | ok a => rw [on_bind_ok hon, hk a t, hs]
    | error f => rw [on_bind_error hon, hs]

theorem SendsNothing.attempt (hx : SendsNothing x) : SendsNothing (attempt x) := by
  intro s
  have hs := hx s
  rw [on_attempt]
  generalize x.on s = out at hs ⊢
  obtain ⟨r, t⟩ := out
  rcases r with (_ | _) | _ <;> exact hs

theorem sendsNothing_noteAll {es : List Event} (h : es.filterMap Event.sent? = []) :
    SendsNothing (noteAll es) := by
  intro s
  rw [on_noteAll, s.sent_append, h, List.append_nil]

theorem sendsNothing_toBytes (b : Body) : SendsNothing b.toBytes := by
  have hread : SendsNothing b.read := by
    unfold Body.read
    split <;> exact fun _ => rfl
  unfold Body.toBytes
  split
  · split
    · exact fun _ => rfl
    · exact (sendsNothing_noteAll rfl).bind fun _ => hread
  · exact hread

theorem sendsNothing_reading : Reading (fun {_} x => SendsNothing x) where
  pure _ _ := rfl
  bind hx hk := hx.bind hk
  fail _ _ := rfl
  attempt hx := hx.attempt
  clock _ := rfl
  toBytes := sendsNothing_toBytes

end Run

theorem Retryer.judge_sendsNothing (r : Retryer) (e : Error) : (r.judge e).SendsNothing := by
  intro s
  obtain ⟨v, pause, h⟩ := r.judge_shape e s
  rw [h s rfl rfl rfl]
  cases pause with
  | none => rfl
  | some i => exact (s.sent_append [.slept i]).trans (List.append_nil _)

/-! ## Parts of a client that send nothing -/

structure Logger.SendsNothing (l : Logger) : Prop where
  request : ∀ key level r, (liftM (l.request key level r) : Run Unit).SendsNothing
  response : ∀ key level r elapsed, (l.response key level r elapsed).SendsNothing
  retry : ∀ key level, (liftM (l.retry key level) : Run Unit).SendsNothing
  ioError : ∀ key level e elapsed, (liftM (l.ioError key level e elapsed) : Run Unit).SendsNothing

namespace Components

/-- Nothing but the transport sends requests, and the transport sends the one that it is given. -/
structure SendsOnce (c : Components) : Prop where
  transport : ∀ request options s,
    ((c.transport.execute request options).on s).2.sent = s.sent ++ [(request, options)]
  logger : c.logger.SendsNothing
  encoder : ∀ a type t, (c.encoder.encode a type t).SendsNothing
  queryMapEncoder : ∀ v, (c.queryMapEncoder.encode v).SendsNothing
  decoder : ∀ r type, (c.decoder.decode r type).SendsNothing
  errorDecoder : ∀ key r, (c.errorDecoder.decode key r).SendsNothing

end Components

namespace Components

variable {c : Components} {m : Metadata} {request : Request} {options : Options}

theorem SendsOnce.create (hc : c.SendsOnce) (args : List Arg) :
    (Binding.create c.encoder c.queryMapEncoder m args).SendsNothing := by
  refine Binding.create_closed Run.sendsNothing_reading.toClosed (fun _ _ => rfl) (fun _ k _ => ?_)
    (fun a type t => Run.sendsNothing_reading.mapError (hc.encoder a type t) _) hc.queryMapEncoder
  unfold Binding.argument
  split <;> exact fun _ => rfl

theorem logged_sent {x : Quiet Unit} (hx : (liftM x : Run Unit).SendsNothing) (s : Session) :
    (c.logged x s).sent = s.sent := by
  unfold logged
  split
  · exact hx s
  · rfl

theorem SendsOnce.receive (hc : c.SendsOnce) (reply : Except Error Response) :
    (c.receive m request reply).SendsNothing := by
  have hget : Run.SendsNothing (get : Run Session) := fun _ => rfl
  cases reply with
  | error e =>
    rw [Components.receive]
    split
    · refine hget.bind fun u => Run.SendsNothing.bind (fun s => ?_) fun _ _ => rfl
      rw [on_onLevel]
      exact logged_sent (hc.logger.ioError _ _ _ _) s
    · exact fun _ => rfl
  | ok r =>
    dsimp only [Components.receive]
    split
    · exact hget.bind fun u => hc.logger.response _ _ _ _
    · exact fun _ => rfl

theorem SendsOnce.digest (hc : c.SendsOnce) (request : Request) (reply : Except Fault Response) :
    (c.digest m request reply).SendsNothing := by
  have hhandle := handleResponse_reading (m := m) Run.sendsNothing_reading hc.decoder hc.errorDecoder
  rcases reply with (e | x) | r
  · exact (hc.receive (.error e)).bind hhandle
  · exact fun _ => rfl
  · exact (hc.receive (.ok r)).bind hhandle

theorem Attempt.Performed.sent {a : Attempt} (hc : c.SendsOnce)
    (ha : a.Performed c m request options) :
    a.finish.sent = a.start.sent ++ [(request, options)] := by
  have hexecuted := hc.transport request options (c.logged (c.logger.request m.configKey c.logLevel request) a.start)
  rw [ha.executed, logged_sent (hc.logger.request _ _ _)] at hexecuted
  have hdigested := hc.digest (m := m) request a.reply a.replied
  rw [ha.digested, hexecuted] at hdigested
  exact hdigested

theorem Tries.sent {r : Retryer} {s : Session} {as : List Attempt}
    {out : Except Fault Output × Session} (hc : c.SendsOnce)
    (h : Tries c m request options r s as out) :
    out.2.sent = s.sent ++ List.replicate as.length (request, options) := by
  induction h with
  | ends ha _ => exact ha.sent hc
  | @refused r _ a e s ha _ _ hj | @crashed r a e _ s ha _ _ hj =>
    have hjudged := r.judge_sendsNothing e a.finish
    rw [hj] at hjudged
    exact hjudged.trans (ha.sent hc)
  | @again r _ a _ e s _ _ ha _ _ hj _ ih =>
    have hjudged := r.judge_sendsNothing e a.finish
    rw [hj] at hjudged
    rw [ih, logged_sent (hc.logger.retry _ _), hjudged, ha.sent hc, List.append_assoc]
    rfl

end Components

end DeclarativeHttp
