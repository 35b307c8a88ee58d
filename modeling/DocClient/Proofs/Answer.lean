import DocClient.Proofs.Write

namespace DocClient

/-!
# Reading the answer to a write

A write that got an answer checks its status and, unless the call is silent, decodes the
document's metadata and then the old and new versions the call asked for, each into its sink.
`Collection.receipt` is that reading as a plain function of the response: the write's result,
and the version, if any, put into each sink.  `run_receive_eq` says the operation is exactly
that, and touches nothing but the two sinks, at the write's own slot.

`AnswerSpec` says what the result of a write is, by what the connection answered: failures of
the connection and of the status check are passed on unchanged, a silent call reads no body,
a body whose metadata does not decode is a decoding failure without metadata, and a returned
version that is missing or does not decode is a decoding failure carrying the metadata read
before it.  `writeOne_exchange` is the single-document write from end to end under a call whose
cancel handle is never set: a refused key and a missing payload are answered without sending
anything, and every other write sends its one request and answers as `AnswerSpec` says.
-/

/-! ## Which errors reading produces -/

namespace Key

/-- A key is only ever refused as an invalid key. -/
theorem validate_error {key : String} {e : Error} (refused : validate key = .error e) :
    Exists fun msg => e = .invalidKey msg := by
  unfold validate at refused
  split at refused
  · cases refused
    exact ⟨_, rfl⟩
  · split at refused
    · cases refused
      exact ⟨_, rfl⟩
    · split at refused
      · cases refused
      · cases refused
        exact ⟨_, rfl⟩

end Key

namespace Response

/-- The version a response returns in envelope `e`, decoded by `shape`: the envelope must be
there, and its content must decode. -/
def returnedVersion (resp : Response) (shape : Shape) (e : Envelope) : Except Error Json.Value :=
  match resp.parseBody Json.Decoder.value e.field with
  | .error err => .error err
  | .ok payload =>
    match shape.fromValue payload with
    | .error f => .error (.decode ("cannot decode returned document: " ++ f.problem.text) none)
    | .ok v => .ok v

theorem jsonBody_error {r : Response} {e : Error} (failed : r.jsonBody = .error e) :
    Exists fun msg => e = .decode msg none := by
  unfold jsonBody at failed
  split at failed
  · cases failed
  · cases failed
    exact ⟨_, rfl⟩

theorem decodeEnvelope_error {α : Type} {d : Json.Decoder α} {field : String} {v : Json.Value}
    {e : Error} (failed : decodeEnvelope d field v = .error e) :
    Exists fun msg => e = .decode msg none := by
  unfold decodeEnvelope at failed
  split at failed
  · cases failed
  · cases failed
    exact ⟨_, rfl⟩

/-- A body that is not JSON, or whose document part does not decode, is a decoding failure
that carries no metadata. -/
theorem parsePrimary_error {α : Type} {r : Response} {d : Json.Decoder α} {field : String}
    {e : Error} (failed : r.parsePrimary d field = .error e) :
    Exists fun msg => e = .decode msg none := by
  unfold parsePrimary at failed
  cases body : r.jsonBody with
  | error e' =>
      simp only [body, bind, Except.bind] at failed
      cases failed
      exact jsonBody_error body
  | ok root =>
      simp only [body, bind, Except.bind] at failed
      exact decodeEnvelope_error failed

theorem parseBody_error {α : Type} {r : Response} {d : Json.Decoder α} {field : String}
    {e : Error} (failed : r.parseBody d field = .error e) :
    Exists fun msg => e = .decode msg none := by
  unfold parseBody at failed
  cases body : r.jsonBody with
  | error e' =>
      simp only [body, bind, Except.bind] at failed
      cases failed
      exact jsonBody_error body
  | ok root =>
      simp only [body, bind, Except.bind] at failed
      split at failed
      · cases failed
        exact ⟨_, rfl⟩
      · exact decodeEnvelope_error failed

/-- A returned version that is missing or does not decode is a decoding failure that carries no
metadata. -/
theorem returnedVersion_error {resp : Response} {shape : Shape} {e : Envelope} {err : Error}
    (failed : resp.returnedVersion shape e = .error err) :
    Exists fun msg => err = .decode msg none := by
  unfold returnedVersion at failed
  split at failed
  · cases failed
    exact parseBody_error ‹_›
  · split at failed
    · cases failed
      exact ⟨_, rfl⟩
    · cases failed

end Response

/-! ## The settings of a call and their sinks -/

namespace ContextSettings

/-- The settings a call runs with. -/
def ofCall (c : CallConfig) : ContextSettings :=
  { silent := c.silent, returnOld := c.returnOld, returnNew := c.returnNew,
    waitForSync := c.waitForSync, overwrite := c.overwrite }

@[simp] theorem extract_fst (c : CallConfig) (r : Request) : (extract c r).1 = ofCall c := rfl

@[simp] theorem ofCall_silent (c : CallConfig) : (ofCall c).silent = c.silent := rfl

/-- The sink that takes the version in envelope `e` of an answer to `op`: the call's sink for
that version, when the verb returns it. -/
def sinkFor (s : ContextSettings) (op : WriteOp) : Envelope → Option Shape
  | .old => if op.returnsOld then s.returnOld else none
  | .new => if op.returnsNew then s.returnNew else none

theorem sinkFor_old (s : ContextSettings) (op : WriteOp) :
    s.sinkFor op .old = if op.returnsOld then s.returnOld else none := rfl

theorem sinkFor_new (s : ContextSettings) (op : WriteOp) :
    s.sinkFor op .new = if op.returnsNew then s.returnNew else none := rfl

theorem sinkFor_old_eq_some {s : ContextSettings} {op : WriteOp} {shape : Shape} :
    s.sinkFor op .old = some shape <-> op.returnsOld = true /\ s.returnOld = some shape := by
  cases returns : op.returnsOld <;> simp [sinkFor, returns]

theorem sinkFor_new_eq_some {s : ContextSettings} {op : WriteOp} {shape : Shape} :
    s.sinkFor op .new = some shape <-> op.returnsNew = true /\ s.returnNew = some shape := by
  cases returns : op.returnsNew <;> simp [sinkFor, returns]

/-- A creation returns no previous version, a removal no new one. -/
@[simp] theorem sinkFor_create_old (s : ContextSettings) : s.sinkFor .create .old = none := rfl

@[simp] theorem sinkFor_remove_new (s : ContextSettings) : s.sinkFor .remove .new = none := rfl

end ContextSettings

/-! ## Reading as a function of the response -/

namespace Collection

/-- What reading an answer comes to: the write's result, and the version put into each sink. -/
structure Receipt where
  result : Except Error DocumentMeta
  old : Option Json.Value := none
  new : Option Json.Value := none

/-- The version a receipt puts into the sink for envelope `e`. -/
def Receipt.version (r : Receipt) : Envelope → Option Json.Value
  | .old => r.old
  | .new => r.new

/-- The receipt of an answer whose metadata `info` decoded, by what storing the old and then
the new version came to: a failure keeps the metadata, and the old version stays stored when
the new one fails. -/
def Receipt.ofVersions (info : DocumentMeta) (old new : Except Error (Option Json.Value)) :
    Receipt :=
  match old with
  | .error e => { result := .error (e.withMeta info) }
  | .ok old =>
    match new with
    | .error e => { result := .error (e.withMeta info), old := old }
    | .ok new => { result := .ok info, old := old, new := new }

/-- The version to put into the sink for envelope `e`: none when there is no sink for it, else
the decoded version, which must be there. -/
def returned (resp : Response) (sink : Option Shape) (e : Envelope) :
    Except Error (Option Json.Value) :=
  match sink with
  | some shape =>
    match resp.returnedVersion shape e with
    | .ok v => .ok (some v)
    | .error err => .error err
  | none => .ok none

/-- Reading the answer `resp` to a write by `op` under the settings `s`: the status check, then,
unless the call is silent, the metadata, the old version and the new version, in that order. -/
def receipt (c : Collection) (op : WriteOp) (resp : Response) (s : ContextSettings) : Receipt :=
  match resp.checkStatus (op.accepted s) with
  | .error e => { result := .error e }
  | .ok () =>
    if s.silent then { result := .ok DocumentMeta.zero }
    else match resp.parsePrimary DocumentMeta.decoder c.kind.envelope with
      | .error e => { result := .error e }
      | .ok info =>
        Receipt.ofVersions info (returned resp (s.sinkFor op .old) .old)
          (returned resp (s.sinkFor op .new) .new)

/-! ### Storing one version -/

theorem returned_error {resp : Response} {sink : Option Shape} {e : Envelope} {err : Error}
    (failed : returned resp sink e = .error err) : Exists fun msg => err = .decode msg none := by
  unfold returned at failed
  split at failed
  · split at failed
    · cases failed
    · cases failed
      exact Response.returnedVersion_error ‹_›
  · cases failed

theorem returned_eq_some {resp : Response} {sink : Option Shape} {e : Envelope}
    {x : Json.Value} :
    returned resp sink e = .ok (some x) <->
      Exists fun shape => sink = some shape /\ resp.returnedVersion shape e = .ok x := by
  unfold returned
  cases sink with
  | none => simp
  | some shape =>
      cases version : resp.returnedVersion shape e <;> simp [version]

/-- With a sink for it, storing a version fails exactly when the version is missing or does not
decode. -/
theorem returned_isOk {resp : Response} {sink : Option Shape} {e : Envelope} :
    (returned resp sink e).isOk = true <->
      forall shape, sink = some shape -> (resp.returnedVersion shape e).isOk = true := by
  unfold returned
  cases sink with
  | none => simp [Except.isOk, Except.toBool]
  | some shape =>
      cases version : resp.returnedVersion shape e <;> simp [version, Except.isOk, Except.toBool]

/-! ### The receipt of an answer read in full -/

section Versions

variable {info : DocumentMeta} {old new : Except Error (Option Json.Value)}

theorem ofVersions_old_eq_some {x : Json.Value} :
    (Receipt.ofVersions info old new).old = some x <-> old = .ok (some x) := by
  cases old <;> cases new <;> simp [Receipt.ofVersions]

theorem ofVersions_new_eq_some {x : Json.Value} :
    (Receipt.ofVersions info old new).new = some x <->
      old.isOk = true /\ new = .ok (some x) := by
  cases old <;> cases new <;> simp [Receipt.ofVersions, Except.isOk, Except.toBool]

theorem ofVersions_result_ok {m : DocumentMeta} :
    (Receipt.ofVersions info old new).result = .ok m <->
      m = info /\ old.isOk = true /\ new.isOk = true := by
  cases old <;> cases new <;> simp [Receipt.ofVersions, Except.isOk, Except.toBool, eq_comm]

/-- A failure to store either version is reported with the metadata read before it. -/
theorem ofVersions_result_error (failed : Exists fun err => old = .error err \/ new = .error err)
    (plain : forall err, (old = .error err \/ new = .error err) ->
      Exists fun msg => err = .decode msg none) :
    Exists fun msg =>
      (Receipt.ofVersions info old new).result = .error (.decode msg (some info)) := by
  obtain ⟨err, which⟩ := failed
  cases old with
  | error e =>
      obtain ⟨msg, rfl⟩ := plain e (.inl rfl)
      exact ⟨msg, rfl⟩
  | ok o =>
      rcases which with same | same
      · cases same
      · subst same
        obtain ⟨msg, rfl⟩ := plain err (.inr rfl)
        exact ⟨msg, rfl⟩

end Versions

section Receipts

variable {c : Collection} {op : WriteOp} {resp : Response} {s : ContextSettings}

/-- An accepted answer to a call that is not silent, whose metadata decoded, is read in full. -/
theorem receipt_of_read {info : DocumentMeta}
    (accepted : resp.checkStatus (op.accepted s) = .ok ()) (loud : s.silent = false)
    (decoded : resp.parsePrimary DocumentMeta.decoder c.kind.envelope = .ok info) :
    c.receipt op resp s = Receipt.ofVersions info (returned resp (s.sinkFor op .old) .old)
      (returned resp (s.sinkFor op .new) .new) := by
  simp [receipt, accepted, loud, decoded]

/-- The old version is stored exactly when the status was accepted, the call is not silent, the
metadata decoded, and the old version, asked for and returned by the verb, decoded. -/
theorem receipt_old_eq_some {x : Json.Value} :
    (c.receipt op resp s).old = some x <->
      resp.checkStatus (op.accepted s) = .ok () /\ s.silent = false /\
      (resp.parsePrimary DocumentMeta.decoder c.kind.envelope).isOk = true /\
      Exists fun shape => s.sinkFor op .old = some shape /\
        resp.returnedVersion shape .old = .ok x := by
  cases accepted : resp.checkStatus (op.accepted s) with
  | error e => simp [receipt, accepted]
  | ok _ =>
    cases silentCall : s.silent with
    | true => simp [receipt, accepted, silentCall]
    | false =>
      cases decoded : resp.parsePrimary DocumentMeta.decoder c.kind.envelope with
      | error e => simp [receipt, accepted, silentCall, decoded, Except.isOk, Except.toBool]
      | ok info =>
        rw [receipt_of_read accepted silentCall decoded, ofVersions_old_eq_some, returned_eq_some]
        simp [Except.isOk, Except.toBool]

/-- The new version is stored exactly when the call is not silent, the answer was read in full,
and the new version, asked for and returned by the verb, decoded. -/
theorem receipt_new_eq_some {x : Json.Value} :
    (c.receipt op resp s).new = some x <->
      s.silent = false /\ (Exists fun info => (c.receipt op resp s).result = .ok info) /\
      Exists fun shape => s.sinkFor op .new = some shape /\
        resp.returnedVersion shape .new = .ok x := by
  cases accepted : resp.checkStatus (op.accepted s) with
  | error e => simp [receipt, accepted]
  | ok _ =>
    cases silentCall : s.silent with
    | true => simp [receipt, accepted, silentCall]
    | false =>
      cases decoded : resp.parsePrimary DocumentMeta.decoder c.kind.envelope with
      | error e => simp [receipt, accepted, silentCall, decoded]
      | ok info =>
        rw [receipt_of_read accepted silentCall decoded, ofVersions_new_eq_some,
          ← returned_eq_some]
        simp only [ofVersions_result_ok, true_and]
        constructor
        · rintro ⟨oldRead, newRead⟩
          exact ⟨⟨info, rfl, oldRead, by rw [newRead]; rfl⟩, newRead⟩
        · rintro ⟨⟨_, _, oldRead, _⟩, newRead⟩
          exact ⟨oldRead, newRead⟩

/-- A stored version comes from a call that is not silent and has a sink for it. -/
theorem receipt_version_sink {e : Envelope} {x : Json.Value}
    (stored : (c.receipt op resp s).version e = some x) :
    s.silent = false /\ Exists fun shape => s.sinkFor op e = some shape := by
  cases e with
  | old =>
      obtain ⟨_, loud, _, shape, sink, _⟩ := receipt_old_eq_some.mp stored
      exact ⟨loud, shape, sink⟩
  | new =>
      obtain ⟨loud, _, shape, sink, _⟩ := receipt_new_eq_some.mp stored
      exact ⟨loud, shape, sink⟩

/-- A silent call stores no version, and no version is stored where the call has no sink or the
verb returns none. -/
theorem receipt_version_eq_none {e : Envelope}
    (nothing : s.silent = true \/ s.sinkFor op e = none) :
    (c.receipt op resp s).version e = none := by
  cases stored : (c.receipt op resp s).version e with
  | none => rfl
  | some x =>
      obtain ⟨loud, shape, sink⟩ := receipt_version_sink stored
      rcases nothing with silentCall | noSink
      · rw [silentCall] at loud
        cases loud
      · rw [noSink] at sink
        cases sink

theorem returned_eq_some_of_isOk {resp : Response} {shape : Shape} {e : Envelope}
    (stored : (returned resp (some shape) e).isOk = true) :
    Exists fun v => returned resp (some shape) e = .ok (some v) := by
  unfold returned at stored ⊢
  cases version : resp.returnedVersion shape e with
  | error err => simp [version, Except.isOk, Except.toBool] at stored
  | ok v => exact ⟨v, by simp [version]⟩

/-- An answer read in full, under a call that is not silent, stores every version that the
call asked for and the verb returns. -/
theorem receipt_version_of_read {m : DocumentMeta} (read : (c.receipt op resp s).result = .ok m)
    (loud : s.silent = false) {e : Envelope} {shape : Shape} (sink : s.sinkFor op e = some shape) :
    ((c.receipt op resp s).version e).isSome = true := by
  cases accepted : resp.checkStatus (op.accepted s) with
  | error err => simp [receipt, accepted] at read
  | ok _ =>
    cases decoded : resp.parsePrimary DocumentMeta.decoder c.kind.envelope with
    | error err => simp [receipt, accepted, loud, decoded] at read
    | ok info =>
      rw [receipt_of_read accepted loud decoded] at read ⊢
      obtain ⟨_, oldRead, newRead⟩ := ofVersions_result_ok.mp read
      cases e with
      | old =>
          rw [sink] at oldRead
          obtain ⟨v, stored⟩ := returned_eq_some_of_isOk oldRead
          rw [Receipt.version, ofVersions_old_eq_some.mpr (by rw [sink]; exact stored)]
          rfl
      | new =>
          rw [sink] at newRead
          obtain ⟨v, stored⟩ := returned_eq_some_of_isOk newRead
          rw [Receipt.version, ofVersions_new_eq_some.mpr ⟨oldRead, by rw [sink]; exact stored⟩]
          rfl

/-- A removal that stored its old version succeeded: it returns no new version to fail on. -/
theorem receipt_result_of_removed {x : Json.Value}
    (stored : (c.receipt .remove resp s).old = some x) :
    Exists fun m => (c.receipt .remove resp s).result = .ok m := by
  obtain ⟨accepted, loud, decoded, _⟩ := receipt_old_eq_some.mp stored
  cases primary : resp.parsePrimary DocumentMeta.decoder c.kind.envelope with
  | error err =>
      rw [primary] at decoded
      cases decoded
  | ok info =>
      rw [receipt_of_read accepted loud primary] at stored ⊢
      have oldStored := ofVersions_old_eq_some.mp stored
      refine ⟨info, ofVersions_result_ok.mpr ⟨rfl, by rw [oldStored]; rfl, rfl⟩⟩

end Receipts

end Collection

/-! ## Where reading puts the versions -/

namespace Sink

/-- The sink with `v` put into `slot` when there is a version to put, else as it was. -/
def keep (s : Sink) (slot : Nat) : Option Json.Value → Sink
  | some v => s.put slot v
  | none => s

theorem get?_keep (s : Sink) (slot j : Nat) (v : Option Json.Value) :
    (s.keep slot v).get? j = if slot = j then v.or (s.get? j) else s.get? j := by
  cases v with
  | none => split <;> rfl
  | some v => simp [keep]

end Sink

namespace World

variable {σ : Type} (w : World σ)

/-- The sink that takes the versions in envelope `e`. -/
def sink : Envelope → Sink
  | .old => w.old
  | .new => w.new

/-- The world with the version `v`, if any, put into slot `slot` of the sink for `e`. -/
def keepIn (e : Envelope) (slot : Nat) (v : Option Json.Value) : World σ :=
  match e with
  | .old => { w with old := w.old.keep slot v }
  | .new => { w with new := w.new.keep slot v }

/-- The world with a receipt's versions put into their sinks at `slot`. -/
def keep (slot : Nat) (r : Collection.Receipt) : World σ :=
  (w.keepIn .old slot r.old).keepIn .new slot r.new

@[simp] theorem keep_sink (slot : Nat) (r : Collection.Receipt) (e : Envelope) :
    (w.keep slot r).sink e = (w.sink e).keep slot (r.version e) := by
  cases e <;> rfl

theorem sameWire_keep (slot : Nat) (r : Collection.Receipt) : SameWire w (w.keep slot r) :=
  ⟨rfl, rfl, rfl⟩

@[simp] theorem look_sink (link : Link σ) (e : Envelope) : (w.look link).sink e = w.sink e := by
  cases e <;> rfl

@[simp] theorem handOver_sink (link : Link σ) (r : Request) (e : Envelope) :
    (w.handOver link r).2.sink e = w.sink e := by
  cases e <;> rfl

end World

namespace Collection

variable {σ : Type} (link : Link σ) (w : World σ)

/-- Storing a version is the version to put, put into its sink. -/
theorem run_storeReturned_eq (resp : Response) (returns : Bool) (sink : Option Shape)
    (e : Envelope) (slot : Nat) :
    Op.run link w (storeReturned resp returns sink e slot) =
      match returned resp (if returns then sink else none) e with
      | .error err => (some (.error err), w)
      | .ok v => (some (.ok ()), w.keepIn e slot v) := by
  unfold storeReturned
  cases returns with
  | false => cases e <;> rfl
  | true =>
    cases sink with
    | none => cases e <;> rfl
    | some shape =>
      simp only [↓reduceIte]
      unfold storeEnvelope returned Response.returnedVersion
      cases body : resp.parseBody Json.Decoder.value e.field with
      | error err => rfl
      | ok payload =>
        dsimp only
        cases decoded : shape.fromValue payload with
        | error f => rfl
        | ok v =>
          rw [Op.run_bind, Op.run_putSlot]
          cases e <;> rfl

/-- Reading an answer is its receipt: the receipt's result, with its versions put into their
sinks at the write's slot. -/
theorem run_receive_eq (c : Collection) (op : WriteOp) (resp : Response) (s : ContextSettings)
    (slot : Nat) :
    Op.run link w (c.receive op resp s slot) =
      (some (c.receipt op resp s).result, w.keep slot (c.receipt op resp s)) := by
  unfold receive receipt
  cases accepted : resp.checkStatus (op.accepted s) with
  | error e => rfl
  | ok u =>
    cases u
    cases silentCall : s.silent with
    | true => rfl
    | false =>
      cases decoded : resp.parsePrimary DocumentMeta.decoder c.kind.envelope with
      | error e => rfl
      | ok info =>
        simp only [Bool.false_eq_true, ↓reduceIte]
        -- the stores asked for are the ones `sinkFor` names
        rw [Op.run_bind, run_storeReturned_eq, ← ContextSettings.sinkFor_old]
        cases returned resp (s.sinkFor op .old) .old with
        | error err => rfl
        | ok old =>
          dsimp only
          rw [Op.run_bind, run_storeReturned_eq, ← ContextSettings.sinkFor_new]
          cases returned resp (s.sinkFor op .new) .new <;> rfl

end Collection

/-! ## The result of a write, by the connection's answer -/

/-- What the result `m` of a write by `op` under the settings `s` is, by the connection's answer
`a` to its request. -/
structure AnswerSpec (c : Collection) (op : WriteOp) (s : ContextSettings)
    (a : Except Error Response) (m : Except Error DocumentMeta) : Prop where
  /-- A failure of the connection is passed on unchanged. -/
  unanswered : forall e, a = .error e -> m = .error e
  /-- So is the failure of the status check against the statuses the verb accepts. -/
  rejected : forall resp e, a = .ok resp -> resp.checkStatus (op.accepted s) = .error e ->
    m = .error e
  /-- A silent call answers the zero metadata for an accepted answer, whatever its body. -/
  silent : forall resp, a = .ok resp -> resp.checkStatus (op.accepted s) = .ok () ->
    s.silent = true -> m = .ok DocumentMeta.zero
  /-- A body that is not JSON, or whose document part is not metadata, is a decoding failure
  without metadata. -/
  undecoded : forall resp e, a = .ok resp -> resp.checkStatus (op.accepted s) = .ok () ->
    s.silent = false -> resp.parsePrimary DocumentMeta.decoder c.kind.envelope = .error e ->
    m = .error e /\ Exists fun msg => e = .decode msg none
  /-- Once the metadata `info` decoded, a version that the call asked for and the verb returns,
  missing or not decoding, is a decoding failure carrying `info`. -/
  versionUndecoded : forall resp info, a = .ok resp ->
    resp.checkStatus (op.accepted s) = .ok () -> s.silent = false ->
    resp.parsePrimary DocumentMeta.decoder c.kind.envelope = .ok info ->
    (Exists fun e => Exists fun shape => s.sinkFor op e = some shape /\
      (resp.returnedVersion shape e).isOk = false) ->
    Exists fun msg => m = .error (.decode msg (some info))
  /-- Otherwise the write answers the metadata. -/
  read : forall resp info, a = .ok resp -> resp.checkStatus (op.accepted s) = .ok () ->
    s.silent = false -> resp.parsePrimary DocumentMeta.decoder c.kind.envelope = .ok info ->
    (forall e shape, s.sinkFor op e = some shape -> (resp.returnedVersion shape e).isOk = true) ->
    m = .ok info

namespace AnswerSpec

variable {c : Collection} {op : WriteOp} {s : ContextSettings}

theorem of_unanswered (e : Error) : AnswerSpec c op s (.error e) (.error e) where
  unanswered _ same := by cases same; rfl
  rejected _ _ same := by cases same
  silent _ same := by cases same
  undecoded _ _ same := by cases same
  versionUndecoded _ _ same := by cases same
  read _ _ same := by cases same

end AnswerSpec

namespace Collection

theorem returned_error_of_sink {resp : Response} {sink : Option Shape} {e : Envelope}
    {shape : Shape} (sinkIs : sink = some shape)
    (bad : (resp.returnedVersion shape e).isOk = false) :
    Exists fun err => returned resp sink e = .error err := by
  subst sinkIs
  unfold returned
  dsimp only
  cases version : resp.returnedVersion shape e with
  | error err => exact ⟨err, rfl⟩
  | ok v =>
      rw [version] at bad
      cases bad

/-- The receipt's result is what `AnswerSpec` says of an answered request. -/
theorem receipt_answers (c : Collection) (op : WriteOp) (s : ContextSettings) (resp : Response) :
    AnswerSpec c op s (.ok resp) (c.receipt op resp s).result where
  unanswered _ same := by cases same
  rejected _ e same rejected := by
    cases same
    simp [receipt, rejected]
  silent _ same accepted silentCall := by
    cases same
    simp [receipt, accepted, silentCall]
  undecoded _ e same accepted loud failed := by
    cases same
    exact ⟨by simp [receipt, accepted, loud, failed], Response.parsePrimary_error failed⟩
  versionUndecoded _ info same accepted loud decoded missing := by
    cases same
    rw [receipt_of_read accepted loud decoded]
    apply ofVersions_result_error
    · obtain ⟨e, shape, sink, bad⟩ := missing
      obtain ⟨err, failed⟩ := returned_error_of_sink sink bad
      cases e with
      | old => exact ⟨err, .inl failed⟩
      | new => exact ⟨err, .inr failed⟩
    · intro err which
      rcases which with failed | failed <;> exact returned_error failed
  read _ info same accepted loud decoded decodable := by
    cases same
    rw [receipt_of_read accepted loud decoded, ofVersions_result_ok]
    exact ⟨rfl, returned_isOk.mpr (decodable .old), returned_isOk.mpr (decodable .new)⟩

/-! ## One write, from end to end -/

theorem path_isEmpty (c : Collection) : c.path.isEmpty = false := by
  simp [path, String.isEmpty]

theorem documentPath_isEmpty (c : Collection) (key : String) :
    (c.documentPath key).isEmpty = false := by
  simp [documentPath, path, String.isEmpty]

/-- A refused key is the write's refusal. -/
theorem prepare_of_refused_key {c : Collection} {op : WriteOp} {k : String}
    {body : Option Json.Value} {e : Error} (refused : Key.validate k = .error e) :
    c.prepare op (some k) body = .error e := by
  simp [prepare, refused, bind, Except.bind]

/-- A verb other than removal refuses a missing or `null` payload. -/
theorem prepare_of_missing_payload {c : Collection} {op : WriteOp} {key : Option String}
    {body : Option Json.Value} (keyed : forall k, key = some k -> Key.validate k = .ok ())
    (needsPayload : op ≠ .remove) (missing : body = none \/ body = some .null) :
    c.prepare op key body = .error (.invalidArgument (op.payloadName ++ " nil")) := by
  rcases missing with rfl | rfl <;> cases key with
  | none => simp [prepare, needsPayload, bind, Except.bind, throw, throwThe, MonadExceptOf.throw]
  | some k =>
      simp [prepare, keyed k rfl, needsPayload, bind, Except.bind, throw, throwThe,
        MonadExceptOf.throw]

/-- A valid key with a payload, or without one for a removal, is always prepared. -/
theorem prepare_of_valid {c : Collection} {op : WriteOp} {key : Option String}
    {body : Option Json.Value} (keyed : forall k, key = some k -> Key.validate k = .ok ())
    (payload : op = .remove \/ Exists fun b => body = some b /\ b ≠ .null) :
    Exists fun req => c.prepare op key body = .ok req := by
  rcases payload with rfl | ⟨b, rfl, notNull⟩
  · cases key with
    | none => simp [prepare, Request.create, path_isEmpty, bind, Except.bind, pure, Except.pure]
    | some k =>
        simp [prepare, keyed k rfl, Request.create, documentPath_isEmpty, bind, Except.bind, pure,
          Except.pure]
  · -- the payload check passes whatever the kind of a payload that is not `null`
    cases key with
    | none =>
        cases b <;>
          simp_all [prepare, Request.create, path_isEmpty, bind, Except.bind, pure, Except.pure]
    | some k =>
        cases b <;>
          simp_all [prepare, Request.create, documentPath_isEmpty, bind, Except.bind, pure,
            Except.pure]

/-- A single write under a call whose cancel handle is never set.  A key that fails the key
check is refused as an invalid key, and a verb other than removal refuses a missing or `null`
payload; both answer before anything is sent, and leave the world as it was.  Any other write
is prepared and sends exactly one request; whatever the connection answers to it, the write
finishes with the call's settings, and its result is what `AnswerSpec` says of that answer. -/
theorem writeOne_exchange (c : Collection) (op : WriteOp) (key : Option String)
    (body : Option Json.Value) (slot : Nat) {σ : Type} {link : Link σ} {w : World σ}
    {cfg : CallConfig} (calm : link.Calm w cfg) :
    (forall k e, key = some k -> Key.validate k = .error e ->
      (Exists fun msg => e = .invalidKey msg) /\
      Op.run link w (c.writeOne op key body cfg slot) = (some (none, .error e), w)) /\
    ((forall k, key = some k -> Key.validate k = .ok ()) -> op ≠ .remove ->
      (body = none \/ body = some .null) ->
      Op.run link w (c.writeOne op key body cfg slot) =
        (some (none, .error (.invalidArgument (op.payloadName ++ " nil"))), w)) /\
    ((forall k, key = some k -> Key.validate k = .ok ()) ->
      (op = .remove \/ Exists fun b => body = some b /\ b ≠ .null) ->
      Exists fun req => c.outgoing op key body cfg = some req /\
        forall a w₁, w.handOver link req = (.answer a, w₁) ->
          Exists fun m => Exists fun w' =>
            Op.run link w (c.writeOne op key body cfg slot) =
              (some (some (ContextSettings.ofCall cfg), m), w') /\
            w'.sent = w.sent ++ [req] /\ AnswerSpec c op (ContextSettings.ofCall cfg) a m) := by
  refine ⟨?_, ?_, ?_⟩
  · intro k e named refused
    subst named
    refine ⟨Key.validate_error refused, ?_⟩
    rw [run_writeOne, prepare_of_refused_key refused]
  · intro keyed needsPayload missing
    rw [run_writeOne, prepare_of_missing_payload keyed needsPayload missing]
  · intro keyed payload
    obtain ⟨prepared, preparation⟩ : Exists fun req => c.prepare op key body = .ok req :=
      prepare_of_valid keyed payload
    refine ⟨(ContextSettings.extract cfg prepared).2, by simp [outgoing, preparation], ?_⟩
    intro a w₁ answered
    have sent : w₁.sent = w.sent ++ [(ContextSettings.extract cfg prepared).2] := by
      rw [← World.handOver_sent w link, answered]
    -- the handle is never set, so the send is the request handed over and its answer
    rw [run_writeOne, preparation]
    dsimp only
    rw [run_exchange, Op.run_send_of_calm calm, Op.run_execute, answered]
    cases a with
    | error e => exact ⟨_, _, rfl, sent, AnswerSpec.of_unanswered e⟩
    | ok resp =>
        dsimp only
        rw [run_receive_eq]
        exact ⟨_, _, rfl, sent, receipt_answers c op _ resp⟩

/-- An update of the key `a` with the cancel handle attached and never set, over a connection
that accepts everything. -/
theorem writeOne_exchange_update :
    let c : Collection := ⟨"users", .document⟩
    let key : Option String := some "a"
    let body : Option Json.Value := some (.object [])
    let cfg : CallConfig := { cancel := true }
    let link : Link Unit := Link.answering (.ok ⟨200, []⟩)
    let w : World Unit := { line := () }
    (forall k e, key = some k -> Key.validate k = .error e ->
      (Exists fun msg => e = .invalidKey msg) /\
      Op.run link w (c.writeOne .update key body cfg 0) = (some (none, .error e), w)) /\
    ((forall k, key = some k -> Key.validate k = .ok ()) -> WriteOp.update ≠ .remove ->
      (body = none \/ body = some .null) ->
      Op.run link w (c.writeOne .update key body cfg 0) =
        (some (none, .error (.invalidArgument (WriteOp.update.payloadName ++ " nil"))), w)) /\
    ((forall k, key = some k -> Key.validate k = .ok ()) ->
      (WriteOp.update = .remove \/ Exists fun b => body = some b /\ b ≠ .null) ->
      Exists fun req => c.outgoing .update key body cfg = some req /\
        forall a w₁, w.handOver link req = (.answer a, w₁) ->
          Exists fun m => Exists fun w' =>
            Op.run link w (c.writeOne .update key body cfg 0) =
              (some (some (ContextSettings.ofCall cfg), m), w') /\
            w'.sent = w.sent ++ [req] /\ AnswerSpec c .update (ContextSettings.ofCall cfg) a m) :=
  writeOne_exchange _ _ _ _ _ (fun _ => ⟨rfl, Link.answering_quiet _⟩)

end Collection

end DocClient
