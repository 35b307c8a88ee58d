import DocClient.Call.Sink
import DocClient.Wire.Response

namespace DocClient

/-!
# Connections and the world an operation runs in

A connection is seen only through how it reacts to each request handed to it: it may fire the
cancel handle first, and then it answers (a response or an error) or never answers at all. Its
reaction may depend on everything it has seen, kept in a state of its own.

The cancel handle may also be fired from outside, at any moment. An operation only notices
this when it looks at the handle, so the outside is modelled at those looks: before each, the
link says whether the handle has been fired since the last one. The same state carries both,
so any timing of the cancellation relative to the requests can be expressed.

An operation runs in a world made of the connection's state, the cancel handle, the requests
handed to the connection so far, and the two sinks. An operation that waits for an answer that
never comes does not finish; that is the failure of the `Op` monad, which keeps the world as it
was when the wait began.

Sending under a call whose cancel handle is attached first looks at the handle, and gives up
with `cancelled` without sending if it is set. Otherwise the request is sent, and an answer, if
any, wins over a cancellation that came with it; without an answer, the call is cancelled if
the handle is found fired, and never finishes if not.
-/

/-- What comes back for a request. -/
inductive Reply where
  | answer (r : Except Error Response)
  | silence

/-- How a connection reacts to one request. -/
structure Reaction where
  cancels : Bool
  reply : Reply

/-- A connection, as its reaction to each request given its state, together with the world
around it, which may fire the cancel handle between two looks at it. -/
structure Link (σ : Type) where
  react : σ → Request → Reaction × σ
  /-- Whether the handle has been fired from outside by the time it is next looked at. -/
  fires : σ → Bool × σ := fun line => (false, line)

/-- The state operations run in. -/
structure World (σ : Type) where
  line : σ
  cancelled : Bool := false
  sent : List Request := []
  old : Sink := {}
  new : Sink := {}

namespace World

variable {σ : Type}

/-- The world after `r` is handed to the connection, with the connection's reply: the request
is recorded, and the cancel handle fired if the connection does so. -/
def handOver (w : World σ) (link : Link σ) (r : Request) : Reply × World σ :=
  let (reaction, line) := link.react w.line r
  (reaction.reply,
    { w with line := line, sent := w.sent ++ [r], cancelled := w.cancelled || reaction.cancels })

/-- The world as an operation finds it when it looks at the cancel handle. -/
def look (w : World σ) (link : Link σ) : World σ :=
  let (fired, line) := link.fires w.line
  { w with line := line, cancelled := w.cancelled || fired }

end World

/-- Which sink a returned document goes to. -/
inductive Envelope where
  | old
  | new
  deriving DecidableEq, Repr

/-- The member of a response that holds the returned document. -/
def Envelope.field : Envelope → String
  | .old => "old"
  | .new => "new"

/-- An operation over a connection with state `σ`; its failure means it never finishes. -/
abbrev Op (σ : Type) := ReaderT (Link σ) (ExceptT Unit (StateM (World σ)))

namespace Op

variable {σ : Type}

/-- Hand a request to the connection and take its reply. -/
def exchange (r : Request) : Op σ Reply := do
  let (reply, w) := (← get).handOver (← read) r
  set w
  return reply

/-- Look at the cancel handle: whether it is set. -/
def poll : Op σ Bool := do
  let w := (← get).look (← read)
  set w
  return w.cancelled

/-- Wait for nothing: the operation never finishes. -/
def stall {α : Type} : Op σ α :=
  throw ()

/-- Send a request and wait for the answer, with no regard for cancellation. -/
def execute (r : Request) : Op σ (Except Error Response) := do
  match ← exchange r with
  | .answer a => return a
  | .silence => stall

/-- Whether the call is cancelled: its handle is attached and fired. -/
def isCancelled (c : CallConfig) : Op σ Bool :=
  if c.cancel then poll else return false

/-- Send a request under a call, racing the answer against the call's cancel handle. -/
def send (c : CallConfig) (r : Request) : Op σ (Except Error Response) := do
  if c.cancel then
    if ← poll then return .error .cancelled
    match ← exchange r with
    | .answer a => return a
    | .silence => if ← poll then return .error .cancelled else stall
  else execute r

/-- Put a decoded document into a sink slot. -/
def putSlot (e : Envelope) (slot : Nat) (v : Json.Value) : Op σ Unit :=
  modify fun w => match e with
    | .old => { w with old := w.old.put slot v }
    | .new => { w with new := w.new.put slot v }

/-- Run an operation from a world: its result, or `none` if it never finishes, and the world
after it. -/
def run {α : Type} (link : Link σ) (w : World σ) (op : Op σ α) : Option α × World σ :=
  match StateT.run (ExceptT.run (ReaderT.run op link)) w with
  | (.ok a, w') => (some a, w')
  | (.error (), w') => (none, w')

end Op

end DocClient
