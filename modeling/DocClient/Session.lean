import DocClient.Collection.Batch
import DocClient.Collection.Index

namespace DocClient

/-!
# Sessions

A session works on one collection at a time over one connection. It owns one cancel handle,
which starts unset and is never reset, and the list of indexes fetched so far. Each step runs
one command under its own call options, from the connection state the step is given, and
reports what the command answered together with the world it left behind (the requests sent,
the sinks filled).
-/

/-- A command of a session. -/
inductive Command where
  | read (key : String) (shape : Shape)
  | «exists» (key : String)
  | create (doc : Json.Value)
  | update (key : String) (doc : Json.Value)
  | replace (key : String) (doc : Json.Value)
  | remove (key : String)
  | createMany (docs : Json.Value)
  | updateMany (keys : Option (List String)) (docs : Json.Value)
  | replaceMany (keys : Option (List String)) (docs : Json.Value)
  | removeMany (keys : List String)
  | readMany (keys : List String) (shape : Shape)
  | index (name : String)
  | indexes
  | removeIndex (position : Nat)
  | cancel
  | newRequest (method : Method) (path : String)
  | useCollection (name : String) (kind : CollectionKind)

/-- What a command answered. -/
inductive Outcome where
  | read (m : DocumentMeta) (doc : Json.Value)
  | found (present : Bool)
  | written (m : DocumentMeta)
  | batch (b : BatchOutcome)
  | readMany (results : List (Except Error (DocumentMeta × Json.Value)))
  | index (d : IndexDescriptor) (position : Nat)
  | indexes (ds : List IndexDescriptor) (position : Nat)
  | removed (id : String)
  | cancelled
  | request (r : Request)
  | collection (c : Collection)

/-- How a step ended. -/
inductive StepEnd where
  /-- The command answered. -/
  | answered (result : Except Error Outcome)
  /-- The command waited for an answer that never came. -/
  | stalled
  /-- No index was fetched at the position given. -/
  | noSuchIndex

/-- The state a session keeps between steps. -/
structure Session where
  collection : Collection
  cancelled : Bool := false
  fetched : List IndexDescriptor := []

/-- A step's report: how it ended and the world it left. -/
structure StepReport (σ : Type) where
  ending : StepEnd
  world : World σ

namespace Session

variable {σ : Type}

/-- The operation of a command, and how the session changes with its result. -/
def operation (s : Session) (cmd : Command) (cfg : CallConfig) :
    Op σ (Except Error Outcome × Session) := do
  let c := s.collection
  match cmd with
  | .read key shape => return ((← c.read shape key).map fun (m, d) => .read m d, s)
  | .exists key => return ((← c.exists key).map .found, s)
  | .create doc => return ((← c.create doc cfg).map .written, s)
  | .update key doc => return ((← c.update key doc cfg).map .written, s)
  | .replace key doc => return ((← c.replace key doc cfg).map .written, s)
  | .remove key => return ((← c.remove key cfg).map .written, s)
  -- a session's documents are JSON already, so serializing them never fails
  | .createMany docs => return ((← c.createMany (.ok docs) cfg).map .batch, s)
  | .updateMany keys docs => return ((← c.updateMany keys (.ok docs) cfg).map .batch, s)
  | .replaceMany keys docs => return ((← c.replaceMany keys (.ok docs) cfg).map .batch, s)
  | .removeMany keys => return ((← c.removeMany keys cfg).map .batch, s)
  | .readMany keys shape => return ((← c.readMany shape keys).map .readMany, s)
  | .index name =>
    match ← c.index name with
    | .ok d => return (.ok (.index d s.fetched.length), { s with fetched := s.fetched ++ [d] })
    | .error e => return (.error e, s)
  | .indexes =>
    match ← c.indexes with
    | .ok ds => return (.ok (.indexes ds s.fetched.length), { s with fetched := s.fetched ++ ds })
    | .error e => return (.error e, s)
  | .removeIndex i =>
    match s.fetched[i]? with
    | some d => return ((← d.remove).map fun _ => .removed d.id, s)
    | none => return (.error (.internal "no fetched index"), s)
  | .cancel =>
    modify fun w => { w with cancelled := true }
    return (.ok .cancelled, s)
  | .newRequest m path => return ((Request.create m path).map .request, s)
  | .useCollection name kind =>
    match Collection.open? name kind with
    | .ok c' => return (.ok (.collection c'), { s with collection := c' })
    | .error e => return (.error e, s)

/-- Run one step from the connection state `line`: its report and the session after it. -/
def step (link : Link σ) (s : Session) (cmd : Command) (cfg : CallConfig) (line : σ) :
    StepReport σ × Session :=
  match cmd with
  | .removeIndex i =>
    if s.fetched.length ≤ i then ({ ending := .noSuchIndex, world := { line := line, cancelled := s.cancelled } }, s)
    else go
  | _ => go
where
  go :=
    let w : World σ := { line := line, cancelled := s.cancelled }
    match Op.run link w (s.operation cmd cfg) with
    | (some (result, s'), w') =>
      ({ ending := .answered result, world := w' }, { s' with cancelled := w'.cancelled })
    | (none, w') => ({ ending := .stalled, world := w' }, { s with cancelled := w'.cancelled })

end Session

end DocClient
