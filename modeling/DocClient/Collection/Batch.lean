import DocClient.Collection.Document
import DocClient.Document.Key

namespace DocClient

/-!
# Multi-document operations

A batch runs the single-document write once per item, in index order, and reports one outcome
per item. The documents argument comes as what serializing it gives: its JSON value, or the
serializer's message when it cannot be serialized. Structural problems abort the whole call
before anything is sent: documents that do not serialize, or not to an array, an explicit key
list of the wrong length, an invalid explicit key. Everything else
is recorded at the failing item: a document without a usable `_key`, a refused payload, an
error of the exchange. Each item uses its index as its sink slot.

Before each item the batch checks the call's cancel handle and stops if it is set; the items
left are not attempted, and an item that failed with `cancelled` also stops the batch. If any
item's request was prepared under a silent call, the batch reports only that it was silent.
-/

/-- The outcome of one item of a batch. -/
inductive ItemOutcome where
  | done (m : DocumentMeta)
  | failed (e : Error)
  | notAttempted
  deriving DecidableEq, Inhabited, Repr

namespace ItemOutcome

/-- The metadata of a successful item. -/
def meta? : ItemOutcome → Option DocumentMeta
  | done m => some m
  | _ => none

/-- The error of a failed item. -/
def error? : ItemOutcome → Option Error
  | failed e => some e
  | _ => none

/-- Whether the item succeeded. -/
def isDone : ItemOutcome → Bool
  | done _ => true
  | _ => false

/-- An item as JSON: `done` with its metadata, `failed` with its error, or `not_attempted`. -/
def toValue : ItemOutcome → Json.Value
  | done m => Json.Value.ofMembers [("done", m.toValue)]
  | failed e => Json.Value.ofMembers [("failed", e.toValue)]
  | notAttempted => .string "not_attempted"

end ItemOutcome

/-- The outcome of a batch. -/
inductive BatchOutcome where
  /-- Some item ran silently, so nothing is reported per item. -/
  | silent
  /-- One outcome per item, in order. -/
  | items (outcomes : List ItemOutcome)
  deriving DecidableEq, Inhabited, Repr

namespace BatchOutcome

/-- The outcomes per item; none for a silent batch. -/
def outcomes : BatchOutcome → List ItemOutcome
  | silent => []
  | items os => os

/-- Whether the batch was silent. -/
def isSilent : BatchOutcome → Bool
  | silent => true
  | items _ => false

/-- The metadata per item, the zero value where an item did not succeed. -/
def metas (b : BatchOutcome) : List DocumentMeta :=
  b.outcomes.map fun o => o.meta?.getD DocumentMeta.zero

/-- The error per item, where an item failed. -/
def errors (b : BatchOutcome) : List (Option Error) :=
  b.outcomes.map ItemOutcome.error?

/-- How many items failed. -/
def failureCount (b : BatchOutcome) : Nat :=
  (b.outcomes.filter fun o => o.error?.isSome).length

/-- The batch as JSON: `silent`, or the items and the number that failed. -/
def toValue (b : BatchOutcome) : Json.Value :=
  match b with
  | silent => Json.Value.ofMembers [("silent", .bool true)]
  | items os => Json.Value.ofMembers
    [("items", .array (os.map ItemOutcome.toValue)), ("failure_count", Json.Value.ofNat b.failureCount)]

/-- The per-item views of a batch as JSON. -/
def viewsValue (b : BatchOutcome) : Json.Value :=
  Json.Value.ofMembers
    [ ("is_silent", .bool b.isSilent), ("metas", .array (b.metas.map DocumentMeta.toValue)),
      ("errors", .array (b.errors.map fun e => match e with
        | some e => .string e.code
        | none => .null)),
      ("done", .array (b.outcomes.map fun o => .bool o.isDone)),
      ("item_meta_keys", .array (b.outcomes.map fun o => match o.meta? with
        | some m => .string m.key
        | none => .null)),
      ("into_items_len", Json.Value.ofNat b.outcomes.length) ]

end BatchOutcome

/-- One planned write: its key, given or taken from the document, and its body. -/
structure Job where
  key : Except Error (Option String)
  body : Option Json.Value

/-- The JSON body of a payload, given as what serializing it gives: its value, or the
serializer's message, which becomes the refusal of the payload called `what`. -/
def toBody (payload : Except String Json.Value) (what : String) : Except Error Json.Value :=
  match payload with
  | .ok v => .ok v
  | .error msg => .error (.invalidArgument ("failed to serialize " ++ what ++ ": " ++ msg))

/-- The items of a documents argument, which must serialize, and to an array. -/
def arrayItems (docs : Except String Json.Value) (what : String) : Except Error (List Json.Value) :=
  match toBody docs what with
  | .ok (.array items) => .ok items
  | .ok other => .error (.invalidArgument (what ++ " data must be of kind Array, got " ++ other.kindName))
  | .error e => .error e

/-- Check explicit keys before anything is sent: their number, then each key in order. -/
def checkKeys (keys : List String) (expected : Nat) : Except Error Unit :=
  if keys.length != expected then
    .error (.invalidArgument ("expected " ++ toString expected ++ " keys, got " ++ toString keys.length))
  else keys.forM Key.validate

/-- Pair each item with its key, explicit or taken from the item itself. -/
def keyedJobs (keys : Option (List String)) (items : List Json.Value) : Except Error (List Job) :=
  match keys with
  | some ks => do
    checkKeys ks items.length
    return (ks.zip items).map fun (k, b) => { key := .ok (some k), body := some b }
  | none => .ok (items.map fun b => { key := b.documentKey.map some, body := some b })

namespace Collection

variable {σ : Type}

/-- Run the jobs from index `i` on, filling `acc` (in reverse); `silent` records whether an item
went out under silent settings. -/
def runJobs (c : Collection) (op : WriteOp) (cfg : CallConfig) :
    List Job → Nat → Bool → List ItemOutcome → Op σ (Bool × List ItemOutcome)
  | [], _, silent, acc => return (silent, acc.reverse)
  | job :: rest, i, silent, acc => do
    if ← Op.isCancelled cfg then
      return (silent, acc.reverse ++ (job :: rest).map fun _ => .notAttempted)
    match job.key with
    | .error e => c.runJobs op cfg rest (i + 1) silent (.failed e :: acc)
    | .ok key =>
      let (settings, result) ← c.writeOne op key job.body cfg i
      if settings.any (·.silent) then
        c.runJobs op cfg rest (i + 1) true (.notAttempted :: acc)
      else
        match result with
        | .ok m => c.runJobs op cfg rest (i + 1) silent (.done m :: acc)
        | .error .cancelled =>
          return (silent, (.failed .cancelled :: acc).reverse ++ rest.map fun _ => .notAttempted)
        | .error e => c.runJobs op cfg rest (i + 1) silent (.failed e :: acc)

/-- Run a batch of jobs. -/
def runBatch (c : Collection) (op : WriteOp) (jobs : List Job) (cfg : CallConfig) :
    Op σ BatchOutcome := do
  let (silent, outcomes) ← c.runJobs op cfg jobs 0 false []
  return if silent then .silent else .items outcomes

/-- Run a batch over the jobs its arguments were checked into, or answer the first structural
problem with them before anything is sent. -/
def runChecked (c : Collection) (op : WriteOp) (jobs : Except Error (List Job)) (cfg : CallConfig) :
    Op σ (Except Error BatchOutcome) := do
  match jobs with
  | .error e => return .error e
  | .ok jobs => return .ok (← c.runBatch op jobs cfg)

/-- Create the documents of an array. -/
def createMany (c : Collection) (docs : Except String Json.Value) (cfg : CallConfig) :
    Op σ (Except Error BatchOutcome) :=
  c.runChecked .create ((arrayItems docs "documents").map fun items =>
    items.map fun b => { key := .ok none, body := some b }) cfg

/-- Update documents: item `i` goes to `keys[i]`, or to its own `_key` without keys. -/
def updateMany (c : Collection) (keys : Option (List String)) (docs : Except String Json.Value)
    (cfg : CallConfig) :
    Op σ (Except Error BatchOutcome) :=
  c.runChecked .update (arrayItems docs "updates" >>= keyedJobs keys) cfg

/-- Replace documents: keys follow the rules of `updateMany`. -/
def replaceMany (c : Collection) (keys : Option (List String)) (docs : Except String Json.Value)
    (cfg : CallConfig) :
    Op σ (Except Error BatchOutcome) :=
  c.runChecked .replace (arrayItems docs "documents" >>= keyedJobs keys) cfg

/-- Remove the documents under `keys`, all of which are checked first. -/
def removeMany (c : Collection) (keys : List String) (cfg : CallConfig) :
    Op σ (Except Error BatchOutcome) :=
  c.runChecked .remove ((keys.forM Key.validate).map fun () =>
    keys.map fun k => { key := .ok (some k), body := none }) cfg

/-- Read the documents under `keys` in order, one result each; all keys are checked first. -/
def readMany (c : Collection) (shape : Shape) (keys : List String) :
    Op σ (Except Error (List (Except Error (DocumentMeta × Json.Value)))) := do
  match keys.forM Key.validate with
  | .error e => return .error e
  | .ok () => return .ok (← keys.mapM (c.read shape))

end Collection

end DocClient
