import DocClient.Collection.Document
import DocClient.Proofs.Run

namespace DocClient

/-!
# What a single write does to the wire

A write prepares its request, derives the call's settings, sends, and reads the answer.  The
batch proofs need three things of it, stated here once:

* only sending can answer `cancelled`: every error of preparation, of the status check and of
  decoding is of another kind;
* reading the answer touches only the sinks, never the connection, the request log or the
  cancel handle;
* a finished send puts its request on the wire, unless the call gave up first, and giving up
  means the handle is attached and set; with the handle attached, the request goes out only
  after the send's own look found the handle unset (`SendEffect`).

When the handle is never set and the connection always answers, a write finishes, sends
exactly the request it prepared, and leaves the handle unset (`run_writeOne_of_calm`).
-/

/-! ## Errors other than `cancelled` -/

theorem Key.validate_ne_cancelled (key : String) : Key.validate key ≠ .error .cancelled := by
  unfold Key.validate
  split
  · simp
  · split
    · simp
    · split <;> simp

theorem Request.create_ne_cancelled (method : Method) (path : String) :
    Request.create method path ≠ .error .cancelled := by
  unfold Request.create
  split <;> simp

/-- A new request carries no query parameters. -/
theorem Request.create_query {method : Method} {path : String} {r : Request}
    (created : Request.create method path = .ok r) : r.query = [] := by
  unfold Request.create at created
  split at created
  · cases created
  · cases created
    rfl

theorem Error.withMeta_ne_cancelled {e : Error} (other : e ≠ .cancelled) (m : DocumentMeta) :
    e.withMeta m ≠ .cancelled := by
  cases e <;> simp_all [Error.withMeta]

namespace Response

theorem checkStatus_ne_cancelled (r : Response) (accepted : List UInt16) :
    r.checkStatus accepted ≠ .error .cancelled := by
  unfold checkStatus
  split
  · simp
  · dsimp only
    split
    · simp
    · split
      · simp
      · split <;> simp

theorem jsonBody_ne_cancelled (r : Response) : r.jsonBody ≠ .error .cancelled := by
  unfold jsonBody
  split <;> simp

theorem decodeEnvelope_ne_cancelled {α : Type} (d : Json.Decoder α) (field : String)
    (v : Json.Value) : decodeEnvelope d field v ≠ .error .cancelled := by
  unfold decodeEnvelope
  split <;> simp

theorem parsePrimary_ne_cancelled {α : Type} (r : Response) (d : Json.Decoder α) (field : String) :
    r.parsePrimary d field ≠ .error .cancelled := by
  unfold parsePrimary
  cases body : r.jsonBody with
  | error e =>
      have other : e ≠ .cancelled := fun same => r.jsonBody_ne_cancelled (same ▸ body)
      simpa [bind, Except.bind] using other
  | ok v => simpa [bind, Except.bind] using decodeEnvelope_ne_cancelled d field _

theorem parseBody_ne_cancelled {α : Type} (r : Response) (d : Json.Decoder α) (field : String) :
    r.parseBody d field ≠ .error .cancelled := by
  unfold parseBody
  cases body : r.jsonBody with
  | error e =>
      have other : e ≠ .cancelled := fun same => r.jsonBody_ne_cancelled (same ▸ body)
      simpa [bind, Except.bind] using other
  | ok v =>
      simp only [bind, Except.bind]
      split
      · simp
      · exact decodeEnvelope_ne_cancelled d field _

end Response

namespace Collection

variable {σ : Type}

theorem prepare_ne_cancelled (c : Collection) (op : WriteOp) (key : Option String)
    (body : Option Json.Value) : c.prepare op key body ≠ .error .cancelled := by
  intro same
  unfold prepare at same
  simp only [bind, Except.bind, pure, Except.pure] at same
  -- every error of preparation comes from the key check, the payload check or the path
  repeat' split at same
  all_goals simp_all [Key.validate_ne_cancelled, Request.create_ne_cancelled, throw, throwThe,
    MonadExceptOf.throw]

/-- A prepared request is a new request for the write's path, with the body when there is one. -/
theorem prepare_ok {c : Collection} {op : WriteOp} {key : Option String}
    {body : Option Json.Value} {req : Request} (prepared : c.prepare op key body = .ok req) :
    Exists fun created : Request =>
      Request.create op.method (key.elim c.path c.documentPath) = .ok created /\
        req = body.elim created created.setBody := by
  unfold prepare at prepared
  simp only [bind, Except.bind, pure, Except.pure] at prepared
  repeat' split at prepared
  all_goals simp_all [throw, throwThe, MonadExceptOf.throw]

/-- A prepared request carries no query parameters yet. -/
theorem prepare_query {c : Collection} {op : WriteOp} {key : Option String}
    {body : Option Json.Value} {req : Request} (prepared : c.prepare op key body = .ok req) :
    req.query = [] := by
  obtain ⟨created, creation, rfl⟩ := prepare_ok prepared
  cases body <;> simp [Request.create_query creation]

/-- The request a write sends when its key and body pass preparation: the prepared request
with the call's query parameters. -/
def outgoing (c : Collection) (op : WriteOp) (key : Option String) (body : Option Json.Value)
    (cfg : CallConfig) : Option Request :=
  match c.prepare op key body with
  | .ok req => some (ContextSettings.extract cfg req).2
  | .error _ => none

/-! ## Reading the answer -/

variable (link : Link σ) (w : World σ)

/-- Storing a returned version finishes, fails only in decoding, and touches only the sinks. -/
theorem run_storeEnvelope (resp : Response) (shape : Shape) (e : Envelope) (slot : Nat) :
    Exists fun res => Exists fun w' => Op.run link w (storeEnvelope resp shape e slot) = (some res, w') /\
      res ≠ .error .cancelled /\ World.SameWire w w' := by
  unfold storeEnvelope
  split
  · rename_i err failed
    exact ⟨_, _, rfl, by simpa [failed] using resp.parseBody_ne_cancelled Json.Decoder.value e.field,
      World.SameWire.refl w⟩
  · split
    · exact ⟨_, _, rfl, by simp, World.SameWire.refl w⟩
    · rw [Op.run_bind, Op.run_putSlot]
      refine ⟨_, _, rfl, by simp, ?_⟩
      cases e <;> exact ⟨rfl, rfl, rfl⟩

/-- The store a write asks for finishes, fails only in decoding, and touches only the sinks. -/
theorem run_storeReturned (resp : Response) (returns : Bool) (sink : Option Shape) (e : Envelope)
    (slot : Nat) :
    Exists fun res => Exists fun w' =>
      Op.run link w (storeReturned resp returns sink e slot) = (some res, w') /\
      res ≠ .error .cancelled /\ World.SameWire w w' := by
  unfold storeReturned
  split
  · exact run_storeEnvelope link w resp _ e slot
  · exact ⟨_, _, rfl, by simp, World.SameWire.refl w⟩

/-- Reading the answer finishes, never answers `cancelled`, and touches only the sinks. -/
theorem run_receive (c : Collection) (op : WriteOp) (resp : Response) (s : ContextSettings)
    (slot : Nat) :
    Exists fun m => Exists fun w' => Op.run link w (c.receive op resp s slot) = (some m, w') /\
      m ≠ .error .cancelled /\ World.SameWire w w' := by
  unfold receive
  split
  · rename_i e rejected
    exact ⟨_, _, rfl, by simpa [rejected] using resp.checkStatus_ne_cancelled (op.accepted s),
      World.SameWire.refl w⟩
  split
  · exact ⟨_, _, rfl, by simp, World.SameWire.refl w⟩
  split
  · rename_i e failed
    exact ⟨_, _, rfl, by simpa [failed] using
      resp.parsePrimary_ne_cancelled DocumentMeta.decoder c.kind.envelope, World.SameWire.refl w⟩
  rename_i info _
  -- the old version is stored before the new one; a failure of either keeps the metadata
  obtain ⟨old, w₁, oldRun, oldOther, oldWire⟩ :=
    run_storeReturned link w resp op.returnsOld s.returnOld .old slot
  rw [Op.run_bind, oldRun]
  dsimp only
  split
  · rename_i e _
    exact ⟨_, _, rfl, by simpa using Error.withMeta_ne_cancelled (by simpa using oldOther) info,
      oldWire⟩
  obtain ⟨new, w₂, newRun, newOther, newWire⟩ :=
    run_storeReturned link w₁ resp op.returnsNew s.returnNew .new slot
  rw [Op.run_bind, newRun]
  dsimp only
  split
  · rename_i e _
    exact ⟨_, _, rfl, by simpa using Error.withMeta_ne_cancelled (by simpa using newOther) info,
      oldWire.trans newWire⟩
  · exact ⟨_, _, rfl, by simp, oldWire.trans newWire⟩

/-! ## One write -/

theorem run_exchange (c : Collection) (op : WriteOp) (r : Request) (s : ContextSettings)
    (cfg : CallConfig) (slot : Nat) :
    Op.run link w (c.exchange op r s cfg slot) = match Op.run link w (Op.send cfg r) with
      | (some (.error e), w') => (some (.error e), w')
      | (some (.ok resp), w') => Op.run link w' (c.receive op resp s slot)
      | (none, w') => (none, w') := by
  unfold exchange
  rw [Op.run_bind]
  rcases Op.run link w (Op.send cfg r) with ⟨_ | _ | _, w'⟩ <;> rfl

theorem run_writeOne (c : Collection) (op : WriteOp) (key : Option String)
    (body : Option Json.Value) (cfg : CallConfig) (slot : Nat) :
    Op.run link w (c.writeOne op key body cfg slot) = match c.prepare op key body with
      | .error e => (some (none, .error e), w)
      | .ok req =>
        match Op.run link w (c.exchange op (ContextSettings.extract cfg req).2
            (ContextSettings.extract cfg req).1 cfg slot) with
        | (some m, w') => (some (some (ContextSettings.extract cfg req).1, m), w')
        | (none, w') => (none, w') := by
  unfold writeOne
  cases c.prepare op key body with
  | error e => rfl
  | ok req =>
      rw [Op.run_bind]
      dsimp only
      rcases Op.run link w (c.exchange op (ContextSettings.extract cfg req).2
        (ContextSettings.extract cfg req).1 cfg slot) with ⟨_ | _, w'⟩ <;> rfl

end Collection

namespace Op

variable {σ : Type}

variable {link : Link σ}

end Op

namespace Collection

variable {σ : Type} {link : Link σ}

/-- When the handle is never set and the connection always answers, a write finishes without
`cancelled`, sends exactly the request it prepared, and the handle is still never set after it;
its settings are silent exactly when the call is silent and the write was prepared. -/
theorem run_writeOne_of_calm {w : World σ} {cfg : CallConfig} (calm : link.Calm w cfg)
    (answers : link.Answers) (c : Collection) (op : WriteOp) (key : Option String)
    (body : Option Json.Value) (slot : Nat) :
    Exists fun settings => Exists fun m => Exists fun w' =>
      Op.run link w (c.writeOne op key body cfg slot) = (some (settings, m), w') /\
      m ≠ .error .cancelled /\ w'.sent = w.sent ++ (c.outgoing op key body cfg).toList /\
      link.Calm w' cfg /\
      settings.any (·.silent) = (cfg.silent && (c.prepare op key body).isOk) := by
  rw [run_writeOne]
  unfold outgoing
  cases prepared : c.prepare op key body with
  | error e =>
      refine ⟨_, _, _, rfl, ?_, by simp, calm, by simp [Except.isOk, Except.toBool]⟩
      simpa [prepared] using c.prepare_ne_cancelled op key body
  | ok req =>
      simp only [Option.toList_some, Except.isOk, Except.toBool, Bool.and_true]
      rw [run_exchange, Op.run_send_of_calm calm, Op.run_execute]
      -- the request goes out and is answered; the handle is left as it was
      obtain ⟨a, reply, other⟩ := answers w.line (ContextSettings.extract cfg req).2
      have handed : w.handOver link (ContextSettings.extract cfg req).2 =
          (.answer a, (w.handOver link (ContextSettings.extract cfg req).2).2) := by
        rw [← reply]
        rfl
      have calmAfter : link.Calm (w.handOver link (ContextSettings.extract cfg req).2).2 cfg := by
        intro attached
        obtain ⟨unset, quiet⟩ := calm attached
        exact ⟨by rw [quiet.handOver_cancelled, unset], quiet⟩
      have sentAfter : (w.handOver link (ContextSettings.extract cfg req).2).2.sent =
          w.sent ++ [(ContextSettings.extract cfg req).2] :=
        World.handOver_sent w link _
      rw [handed]
      cases a with
      | error e => exact ⟨_, _, _, rfl, by simpa using other, sentAfter, calmAfter, rfl⟩
      | ok resp =>
          obtain ⟨m, w', received, notCancelled, wire⟩ := run_receive link _ c op resp _ slot
          dsimp only
          rw [received]
          refine ⟨_, _, _, rfl, notCancelled, by rw [wire.sent, sentAfter], ?_, rfl⟩
          intro attached
          obtain ⟨unset, quiet⟩ := calmAfter attached
          exact ⟨by rw [wire.cancelled, unset], quiet⟩

end Collection

end DocClient
