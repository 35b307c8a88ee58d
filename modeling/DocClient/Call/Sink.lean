import DocClient.Call.Settings
import DocClient.Error

namespace DocClient

/-!
# Sinks for returned documents

A sink receives the old or new versions of documents that writes return, one per slot: slot 0
for a single-document call, the item's index in a batch. A later version for the same slot
replaces the earlier one. The slots are kept sorted.

`get?_put` says what putting does to reading: the slot written reads as the new document, every
other slot as before.
-/

/-- Returned documents by slot, sorted by slot. -/
structure Sink where
  slots : List (Nat × Json.Value) := []
  deriving Inhabited

namespace Sink

/-- Put a document into a sorted slot list, replacing the slot's old content. -/
def insertSlot (slot : Nat) (v : Json.Value) : List (Nat × Json.Value) → List (Nat × Json.Value)
  | [] => [(slot, v)]
  | (i, w) :: rest =>
    if slot < i then (slot, v) :: (i, w) :: rest
    else if slot = i then (slot, v) :: rest
    else (i, w) :: insertSlot slot v rest

/-- Put a decoded document into a slot. -/
def put (s : Sink) (slot : Nat) (v : Json.Value) : Sink :=
  { slots := insertSlot slot v s.slots }

/-- The document in slot `j` of a slot list. -/
def lookupSlot (j : Nat) : List (Nat × Json.Value) → Option Json.Value
  | [] => none
  | (i, w) :: rest => if i = j then some w else lookupSlot j rest

theorem lookupSlot_insertSlot (slot j : Nat) (v : Json.Value) (ps : List (Nat × Json.Value)) :
    lookupSlot j (insertSlot slot v ps) = if slot = j then some v else lookupSlot j ps := by
  induction ps with
  | nil => simp [insertSlot, lookupSlot]
  | cons p rest ih =>
    obtain ⟨i, w⟩ := p
    by_cases hlt : slot < i
    · simp [insertSlot, lookupSlot, hlt]
    · by_cases heq : slot = i
      · subst heq
        by_cases h : slot = j <;> simp [insertSlot, lookupSlot, h]
      · by_cases h : i = j
        · subst h
          simp [insertSlot, lookupSlot, hlt, heq]
        · simp [insertSlot, lookupSlot, hlt, heq, h, ih]

/-- Decode a returned document with `shape` and put it into a slot; a document that does not
decode leaves the sink unchanged. -/
def store (s : Sink) (shape : Shape) (slot : Nat) (payload : Json.Value) : Except Error Sink :=
  match shape.fromValue payload with
  | .ok v => .ok (s.put slot v)
  | .error f => .error (.decode ("cannot decode returned document: " ++ f.problem.text) none)

/-- How many documents the sink holds. -/
def len (s : Sink) : Nat := s.slots.length

/-- Whether the sink is empty. -/
def isEmpty (s : Sink) : Bool := s.slots.isEmpty

/-- The document in a slot. -/
def get? (s : Sink) (slot : Nat) : Option Json.Value :=
  lookupSlot slot s.slots

@[simp] theorem get?_put (s : Sink) (slot j : Nat) (v : Json.Value) :
    (s.put slot v).get? j = if slot = j then some v else s.get? j :=
  lookupSlot_insertSlot slot j v s.slots

/-- Remove and return the document in a slot. -/
def take (s : Sink) (slot : Nat) : Option Json.Value × Sink :=
  (s.get? slot, { slots := s.slots.filter (·.1 != slot) })

/-- The documents of a sink as JSON, by slot. -/
def toValue (s : Sink) : Json.Value :=
  .array (s.slots.map fun (i, v) => Json.Value.ofMembers [("slot", Json.Value.ofNat i), ("value", v)])

/-- The debug view of a sink. -/
def debugText (s : Sink) : String :=
  "Sink \x7b len: " ++ toString s.len ++ " \x7d"

end Sink

end DocClient
