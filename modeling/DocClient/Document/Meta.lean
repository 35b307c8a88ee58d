import DocClient.Json.Decode

namespace DocClient

/-!
# Document metadata

Every stored document carries a key, a collection-qualified id and a revision; a write may
also report the revision it replaced. On the wire these are the members `_key`, `_id`, `_rev`
and `_oldRev`. The zero value, with all three strings empty, stands for "no metadata" in
silent and failed operations.
-/

/-- The identifying metadata of a stored document. -/
structure DocumentMeta where
  key : String
  id : String
  rev : String
  oldRev : Option String := none
  deriving DecidableEq, Inhabited, Repr

namespace DocumentMeta

/-- The zero value handed out where no metadata was read. -/
def zero : DocumentMeta := { key := "", id := "", rev := "" }

/-- Whether this is the zero value: key, id and revision are all empty. -/
def isEmpty (m : DocumentMeta) : Bool :=
  m.key.isEmpty && m.id.isEmpty && m.rev.isEmpty

/-- The wire form: `_key`, `_id` and `_rev`, and `_oldRev` only when there is one. -/
def toValue (m : DocumentMeta) : Json.Value :=
  Json.Value.ofMembers
    ([("_key", .string m.key), ("_id", .string m.id), ("_rev", .string m.rev)] ++
      match m.oldRev with
      | some r => [("_oldRev", .string r)]
      | none => [])

/-- The wire shape: `_key`, `_id` and `_rev` are required strings; `_oldRev` may be missing or
`null`. -/
def record : Json.Record DocumentMeta :=
  { name := "DocumentMeta",
    base := zero,
    fields :=
      [ .of "_key" Json.Decoder.string (fun s m => { m with key := s }) .required,
        .of "_id" Json.Decoder.string (fun s m => { m with id := s }) .required,
        .of "_rev" Json.Decoder.string (fun s m => { m with rev := s }) .required,
        .of "_oldRev" (Json.Decoder.option Json.Decoder.string) (fun s m => { m with oldRev := s })
          (.defaulted fun m => { m with oldRev := none }) ] }

/-- Decoding metadata from JSON. -/
def decoder : Json.Decoder DocumentMeta := record.decoder

end DocumentMeta

end DocClient
