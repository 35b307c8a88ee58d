import DocClient.Collection.Basic

namespace DocClient

/-!
# Single-document operations

Reading fetches a document and decodes its metadata and its content from the same part of
the body. Every write follows one exchange: check the key, refuse a null document, derive the
call's settings (which set their query parameters), send, check the status against the verb's
accepted set, and then, unless the call is silent, decode the metadata and the requested old
and new versions into their sinks. A failure to decode a returned version keeps the metadata
as partial metadata.
-/

/-- The write verbs. -/
inductive WriteOp where
  | create
  | update
  | replace
  | remove
  deriving DecidableEq, Inhabited, Repr

namespace WriteOp

/-- The method a verb is sent with. -/
def method : WriteOp → Method
  | create => .post
  | update => .patch
  | replace => .put
  | remove => .delete

/-- The statuses a verb accepts under the given settings. -/
def accepted (op : WriteOp) (s : ContextSettings) : List UInt16 :=
  match op with
  | create => [s.okStatus 201 202]
  | replace => [s.okStatus 201 202]
  | update => [200, 201, 202]
  | remove => [s.okStatus 200 202]

/-- Whether the verb returns the previous version. -/
def returnsOld : WriteOp → Bool
  | create => false
  | _ => true

/-- Whether the verb returns the new version. -/
def returnsNew : WriteOp → Bool
  | remove => false
  | _ => true

/-- What the verb's payload is called in messages. -/
def payloadName : WriteOp → String
  | update => "update"
  | _ => "document"

end WriteOp

namespace Collection

variable {σ : Type}

/-- Read the document under `key`: its metadata and its content decoded by `shape`. -/
def read (c : Collection) (shape : Shape) (key : String) :
    Op σ (Except Error (DocumentMeta × Json.Value)) := do
  match Key.validate key with
  | .error e => return .error e
  | .ok () =>
  match Request.create .get (c.documentPath key) with
  | .error e => return .error e
  | .ok req =>
  match ← Op.execute req with
  | .error e => return .error e
  | .ok resp =>
  return do
    resp.checkStatus [200]
    let info ← resp.parsePrimary DocumentMeta.decoder c.kind.envelope
    let doc ← (resp.parsePrimary shape c.kind.envelope).mapError (·.withMeta info)
    return (info, doc)

/-- Whether a document is stored under `key`. -/
def «exists» (c : Collection) (key : String) : Op σ (Except Error Bool) := do
  match Key.validate key with
  | .error e => return .error e
  | .ok () =>
  match Request.create .head (c.documentPath key) with
  | .error e => return .error e
  | .ok req =>
  match ← Op.execute req with
  | .error e => return .error e
  | .ok resp =>
  if resp.status = 404 then return .ok false
  else return (resp.checkStatus [200]).map fun _ => true

/-- The request of a write, before the call's settings: the key is checked, a missing or
`null` payload refused (except for removal), and the body set. -/
def prepare (c : Collection) (op : WriteOp) (key : Option String) (body : Option Json.Value) :
    Except Error Request := do
  match key with
  | some k => Key.validate k
  | none => pure ()
  if op != .remove then
    match body with
    | none | some .null => throw (.invalidArgument (op.payloadName ++ " nil"))
    | some _ => pure ()
  let path := match key with
    | some k => c.documentPath k
    | none => c.path
  let req ← Request.create op.method path
  return match body with
    | some b => req.setBody b
    | none => req

/-- Decode the returned version in `e` of a response into its sink slot. -/
def storeEnvelope (resp : Response) (shape : Shape) (e : Envelope) (slot : Nat) :
    Op σ (Except Error Unit) := do
  match resp.parseBody Json.Decoder.value e.field with
  | .error err => return .error err
  | .ok payload =>
    match shape.fromValue payload with
    | .error f =>
      return .error (.decode ("cannot decode returned document: " ++ f.problem.text) none)
    | .ok v =>
      Op.putSlot e slot v
      return .ok ()

/-- Decode the version in `e` into its sink slot, when the verb returns that version and the
call has a sink for it. -/
def storeReturned (resp : Response) (returns : Bool) (sink : Option Shape) (e : Envelope)
    (slot : Nat) : Op σ (Except Error Unit) :=
  match returns, sink with
  | true, some shape => storeEnvelope resp shape e slot
  | _, _ => pure (.ok ())

/-- Read the answer to a write: check its status and, unless the call is silent, decode the
metadata and the requested old and new versions into their sinks. -/
def receive (c : Collection) (op : WriteOp) (resp : Response) (s : ContextSettings) (slot : Nat) :
    Op σ (Except Error DocumentMeta) := do
  match resp.checkStatus (op.accepted s) with
  | .error e => return .error e
  | .ok () =>
  if s.silent then return .ok DocumentMeta.zero
  match resp.parsePrimary DocumentMeta.decoder c.kind.envelope with
  | .error e => return .error e
  | .ok info =>
  match ← storeReturned resp op.returnsOld s.returnOld .old slot with
  | .error e => return .error (e.withMeta info)
  | .ok () =>
  match ← storeReturned resp op.returnsNew s.returnNew .new slot with
  | .error e => return .error (e.withMeta info)
  | .ok () => return .ok info

/-- Send a prepared write and read its answer. -/
def exchange (c : Collection) (op : WriteOp) (req : Request) (s : ContextSettings)
    (cfg : CallConfig) (slot : Nat) : Op σ (Except Error DocumentMeta) := do
  match ← Op.send cfg req with
  | .error e => return .error e
  | .ok resp => c.receive op resp s slot

/-- Run one write. Also answers the settings the request went out with, or `none` when it
failed before they were derived. -/
def writeOne (c : Collection) (op : WriteOp) (key : Option String) (body : Option Json.Value)
    (cfg : CallConfig) (slot : Nat) : Op σ (Option ContextSettings × Except Error DocumentMeta) := do
  match c.prepare op key body with
  | .error e => return (none, .error e)
  | .ok req =>
    let (s, req) := ContextSettings.extract cfg req
    let result ← c.exchange op req s cfg slot
    return (some s, result)

/-- Create a document. -/
def create (c : Collection) (doc : Json.Value) (cfg : CallConfig) : Op σ (Except Error DocumentMeta) := do
  return (← c.writeOne .create none (some doc) cfg 0).2

/-- Merge `doc` into the document under `key`. -/
def update (c : Collection) (key : String) (doc : Json.Value) (cfg : CallConfig) :
    Op σ (Except Error DocumentMeta) := do
  return (← c.writeOne .update (some key) (some doc) cfg 0).2

/-- Replace the document under `key` by `doc`. -/
def replace (c : Collection) (key : String) (doc : Json.Value) (cfg : CallConfig) :
    Op σ (Except Error DocumentMeta) := do
  return (← c.writeOne .replace (some key) (some doc) cfg 0).2

/-- Remove the document under `key`. -/
def remove (c : Collection) (key : String) (cfg : CallConfig) : Op σ (Except Error DocumentMeta) := do
  return (← c.writeOne .remove (some key) none cfg 0).2

end Collection

end DocClient
