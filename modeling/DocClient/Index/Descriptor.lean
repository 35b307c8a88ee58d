import DocClient.Index.Kind
import DocClient.Json.Decode

namespace DocClient

/-!
# Index descriptors

The server describes an index by an object with an id `collection/name`, a kind, the indexed
fields and a few flags. A descriptor is accepted only if its id is non-empty, holds exactly
one `/`, and its kind is known; the flags that an index kind does not use read as `false` and
the minimum length as `0`.
-/

/-- An index descriptor as it is sent, before its id and kind are checked. -/
structure IndexWire where
  id : String := ""
  kind : String := ""
  fields : List String := []
  unique : Option Bool := none
  sparse : Option Bool := none
  deduplicate : Option Bool := none
  geoJson : Option Bool := none
  minLength : Nat := 0

namespace IndexWire

/-- The wire shape: `id`, `type`, `fields` and `minLength` default when missing (but `null`
is not accepted for them); the four flags may be missing or `null`, except in the array form. -/
def record : Json.Record IndexWire :=
  let flag := Json.Decoder.option Json.Decoder.bool
  { name := "RawIndex",
    base := {},
    fields :=
      [ .of "id" Json.Decoder.string (fun s w => { w with id := s })
          (.defaulted fun w => { w with id := "" }),
        .of "type" Json.Decoder.string (fun s w => { w with kind := s })
          (.defaulted fun w => { w with kind := "" }),
        .of "fields" (Json.Decoder.list Json.Decoder.string) (fun s w => { w with fields := s })
          (.defaulted fun w => { w with fields := [] }),
        .of "unique" flag (fun b w => { w with unique := b }) (.optional fun w => { w with unique := none }),
        .of "sparse" flag (fun b w => { w with sparse := b }) (.optional fun w => { w with sparse := none }),
        .of "deduplicate" flag (fun b w => { w with deduplicate := b })
          (.optional fun w => { w with deduplicate := none }),
        .of "geoJson" flag (fun b w => { w with geoJson := b })
          (.optional fun w => { w with geoJson := none }),
        .of "minLength" Json.Decoder.u32 (fun n w => { w with minLength := n })
          (.defaulted fun w => { w with minLength := 0 }) ] }

end IndexWire

/-- An accepted index descriptor. -/
structure IndexDescriptor where
  id : String
  kind : IndexKind
  fields : List String
  unique : Option Bool
  sparse : Option Bool
  deduplicate : Option Bool
  geoJson : Option Bool
  minLength : Nat
  deriving DecidableEq, Inhabited, Repr

namespace IndexDescriptor

/-- Check the id and the kind of a descriptor as sent. -/
def ofWire (w : IndexWire) : Except Error IndexDescriptor :=
  if w.id.isEmpty then .error (.invalidArgument "index id is empty")
  else if (w.id.toList.splitOn '/').length != 2 then
    .error (.invalidArgument ("index id '" ++ w.id ++ "' must be `collection/name`"))
  else do
    let kind ← IndexKind.parse w.kind
    return { id := w.id, kind := kind, fields := w.fields, unique := w.unique,
             sparse := w.sparse, deduplicate := w.deduplicate, geoJson := w.geoJson,
             minLength := w.minLength }

/-- Read a descriptor from the server's JSON. -/
def ofJson (v : Json.Value) : Except Error IndexDescriptor :=
  match IndexWire.record.ofValue v with
  | .error f => .error (.decode ("invalid index descriptor: " ++ f.problem.text) none)
  | .ok w => ofWire w

/-- The name of the index: the part of the id after its `/`. -/
def name (d : IndexDescriptor) : String :=
  match d.id.toList.splitOn '/' with
  | _ :: rest@(_ :: _) => String.ofList (['/'].intercalate rest)
  | _ => d.id

/-- The collection of the index: the part of the id before its `/`. -/
def collection (d : IndexDescriptor) : String :=
  match d.id.toList.splitOn '/' with
  | c :: _ :: _ => String.ofList c
  | _ => ""

/-- The wire form of the descriptor, with the flags read as booleans. -/
def toValue (d : IndexDescriptor) : Json.Value :=
  Json.Value.ofMembers
    [ ("id", .string d.id), ("name", .string d.name), ("collection", .string d.collection),
      ("type", .string d.kind.name), ("fields", .array (d.fields.map .string)),
      ("unique", .bool (d.unique.getD false)), ("sparse", .bool (d.sparse.getD false)),
      ("deduplicate", .bool (d.deduplicate.getD false)),
      ("geo_json", .bool (d.geoJson.getD false)), ("min_length", Json.Value.ofNat d.minLength) ]

/-- An optional flag as a debug view shows it. -/
def flagText : Option Bool → String
  | none => "None"
  | some b => "Some(" ++ toString b ++ ")"

/-- The debug view of a descriptor. -/
def debugText (d : IndexDescriptor) : String :=
  "IndexDescriptor \x7b id: " ++ Text.debugQuote d.id ++ ", index_type: " ++ d.kind.debugName ++
    ", fields: [" ++ String.intercalate ", " (d.fields.map Text.debugQuote) ++ "], unique: " ++
    flagText d.unique ++ ", sparse: " ++ flagText d.sparse ++ ", deduplicate: " ++
    flagText d.deduplicate ++ ", geo_json: " ++ flagText d.geoJson ++ ", min_length: " ++
    toString d.minLength ++ " \x7d"

end IndexDescriptor

end DocClient
