import DocClient.Json.Parse

namespace DocClient
namespace Json

/-!
# Decoding JSON into fixed shapes

A `Decoder α` reads an `α` either from a parsed `Value` or straight from text. The two paths
agree on what they accept but differ in what they report: the text path fails at the first
offending place in reading order and names its line and column, while the value path walks
object members in their sorted order and names no place.

Records are decoded field by field (`Record.decoder`). An object may hold the fields in any
order and other members besides; a field given twice is an error, and a missing field is an
error unless the field says what it becomes (`Absent`). An array holds the fields by
position, and there an optional field is as required as any other. Numbers must fit their
width: a negative or too large integer is an invalid value, a double an invalid type.
-/

/-- A reader and a value decoder for `α`, with what messages say was expected. -/
structure Decoder (α : Type) where
  expecting : String
  ofValue : Value → Except Fault α
  read : Reader α

namespace Decoder

/-- Decode an already parsed value. -/
def fromValue {α : Type} (d : Decoder α) (v : Value) : Except Fault α :=
  d.ofValue v

/-- Decode a whole text. -/
def fromText {α : Type} (d : Decoder α) (input : List UInt8) : Except Fault α :=
  readAll d.read input

/-- The fault for a value of the wrong kind. -/
def mismatch {α : Type} (expecting : String) (v : Value) : Except Fault α :=
  .error (.bare (.invalidType v.unexpected expecting))

/-- Fail at the current place with a problem found by a decoder. -/
def failPlaced {α : Type} (p : Problem) : Reader α := do
  throw (← Reader.placed (.bare p))

/-- Decode with `d`, then transform the result. -/
def map {α β : Type} (f : α → β) (d : Decoder α) : Decoder β :=
  { expecting := d.expecting, ofValue := fun v => f <$> d.ofValue v, read := f <$> d.read }

/-- Any JSON value, as it is. -/
def value : Decoder Value :=
  { expecting := "any valid JSON value",
    ofValue := fun v => .ok v,
    read := Reader.anyValue }

/-- A string. -/
def string : Decoder String :=
  { expecting := "a string",
    ofValue := fun v => match v with
      | .string s => .ok s
      | other => mismatch "a string" other,
    read := do
      match ← Reader.blank with
      | none => Reader.failAhead .eofWhileParsingValue
      | some 34 => do Reader.bump; Reader.string
      | some _ => throw (← Reader.invalidType "a string") }

/-- A boolean. -/
def bool : Decoder Bool :=
  { expecting := "a boolean",
    ofValue := fun v => match v with
      | .bool b => .ok b
      | other => mismatch "a boolean" other,
    read := do
      match ← Reader.blank with
      | none => Reader.failAhead .eofWhileParsingValue
      | some 116 => do Reader.bump; Reader.ident [114, 117, 101]; return true
      | some 102 => do Reader.bump; Reader.ident [97, 108, 115, 101]; return false
      | some _ => throw (← Reader.invalidType "a boolean") }

/-- A number decoder from what it makes of each kind of number. -/
def ofNumber {α : Type} (expecting : String) (visit : Number → Except Problem α) : Decoder α :=
  { expecting := expecting,
    ofValue := fun v => match v with
      | .number n => (visit n).mapError Fault.bare
      | other => mismatch expecting other,
    read := do
      let n ← match ← Reader.blank with
        | none => Reader.failAhead .eofWhileParsingValue
        | some 45 => do Reader.bump; Reader.number false
        | some c =>
          if Reader.isDigit c then Reader.number true
          else throw (← Reader.invalidType expecting)
      match visit n with
      | .ok a => return a
      | .error p => failPlaced p }

/-- An unsigned integer below `2 ^ bits`, named `name` in messages. -/
def unsignedBelow (name : String) (bits : Nat) : Decoder Nat :=
  ofNumber name fun n => match n with
    | .unsigned k =>
      if k.toNat < Nat.pow 2 bits then .ok k.toNat else .error (.invalidValue (.unsigned k.toNat) name)
    | .signed k => .error (.invalidValue (.signed k.toInt) name)
    | .float x => .error (.invalidType (.float x) name)

/-- An unsigned 32-bit integer. -/
def u32 : Decoder Nat := unsignedBelow "u32" 32

/-- An unsigned 64-bit integer. -/
def u64 : Decoder Nat := unsignedBelow "u64" 64

/-- A double; integers are rounded to the nearest double. -/
def f64 : Decoder Float :=
  ofNumber "f64" fun n => match n with
    | .unsigned k => .ok (Float.ofNat k.toNat)
    | .signed k => .ok (Float.ofInt k.toInt)
    | .float x => .ok x

/-- Read the items of a sequence after its `[`, `acc` in reverse. -/
def readItems {α : Type} (d : Decoder α) : Nat → Bool → List α → Reader (List α)
  | 0, _, _ => Reader.fail .eofWhileParsingList
  | fuel + 1, first, acc => do
    if ← Reader.seqNext first then
      let a ← d.read
      readItems d fuel false (a :: acc)
    else return acc.reverse

/-- Decode each item of a list of values, stopping at the first failure. -/
def eachValue {α : Type} (d : Decoder α) : List Value → Except Fault (List α)
  | [] => .ok []
  | v :: vs => do
    let a ← d.ofValue v
    let as ← eachValue d vs
    return a :: as

/-- A sequence of items of one kind. -/
def list {α : Type} (d : Decoder α) : Decoder (List α) :=
  { expecting := "a sequence",
    ofValue := fun v => match v with
      | .array items => eachValue d items
      | other => mismatch "a sequence" other,
    read := do
      match ← Reader.blank with
      | none => Reader.failAhead .eofWhileParsingValue
      | some 91 => do
        Reader.bump
        let xs ← readItems d (Reader.fuelFor (← get).length) true []
        Reader.endSeq
        return xs
      | some _ => throw (← Reader.invalidType "a sequence") }

/-- An optional value: `null` is absent. -/
def option {α : Type} (d : Decoder α) : Decoder (Option α) :=
  { expecting := "option",
    ofValue := fun v => match v with
      | .null => .ok none
      | other => some <$> d.ofValue other,
    read := do
      match ← Reader.blank with
      | some 110 => do Reader.bump; Reader.ident [117, 108, 108]; return none
      | _ => some <$> d.read }

end Decoder

/-- What a record gets for a field that is missing. -/
inductive Absent (ρ : Type) where
  /-- A missing field is an error. -/
  | required
  /-- A missing member reads as absent; a missing array item is an error. -/
  | optional (set : ρ → ρ)
  /-- A missing field takes a default. -/
  | defaulted (set : ρ → ρ)

/-- One field of a record `ρ`: its name, how to decode it into the record, and what a missing
one does. -/
structure Field (ρ : Type) where
  name : String
  ofValue : Value → Except Fault (ρ → ρ)
  read : Reader (ρ → ρ)
  absent : Absent ρ

/-- The field `name`, decoded by `d` and stored by `set`. -/
def Field.of {ρ α : Type} (name : String) (d : Decoder α) (set : α → ρ → ρ) (absent : Absent ρ) :
    Field ρ :=
  { name := name,
    ofValue := fun v => set <$> d.ofValue v,
    read := set <$> d.read,
    absent := absent }

/-- A record type as its fields in order, decoded starting from `base`. -/
structure Record (ρ : Type) where
  name : String
  fields : List (Field ρ)
  base : ρ

namespace Record

/-- What messages say was expected. -/
def expecting {ρ : Type} (r : Record ρ) : String := "struct " ++ r.name

/-- The first field called `name`, with its position. -/
def lookup {ρ : Type} (fields : List (Field ρ)) (name : String) : Option (Nat × Field ρ) :=
  go 0 fields
where
  go : Nat → List (Field ρ) → Option (Nat × Field ρ)
    | _, [] => none
    | i, f :: rest => if f.name = name then some (i, f) else go (i + 1) rest

/-- Fill in the fields not seen, in order: a missing required field is an error. -/
def fillMissing {ρ : Type} : List (Field ρ) → List Nat → Nat → ρ → Except Problem ρ
  | [], _, _, rec => .ok rec
  | f :: rest, seen, i, rec =>
    if seen.contains i then fillMissing rest seen (i + 1) rec
    else match f.absent with
      | .required => .error (.missingField f.name)
      | .optional set => fillMissing rest seen (i + 1) (set rec)
      | .defaulted set => fillMissing rest seen (i + 1) (set rec)

/-- The error for an array that ends after `i` items. -/
def shortArray {ρ : Type} (r : Record ρ) (i : Nat) : Problem :=
  .invalidLength i (r.expecting ++ " with " ++ toString r.fields.length ++ " elements")

/-- Decode object members in order into the record. -/
def membersOfValue {ρ : Type} (fields : List (Field ρ)) :
    List (String × Value) → List Nat → ρ → Except Fault (ρ × List Nat)
  | [], seen, rec => .ok (rec, seen)
  | (k, v) :: rest, seen, rec =>
    match lookup fields k with
    | none => membersOfValue fields rest seen rec
    | some (i, f) =>
      if seen.contains i then .error (.bare (.duplicateField f.name))
      else do
        let set ← f.ofValue v
        membersOfValue fields rest (i :: seen) (set rec)

/-- Decode array items by position into the record. -/
def itemsOfValue {ρ : Type} (r : Record ρ) :
    List (Field ρ) → Nat → List Value → ρ → Except Fault ρ
  | [], _, _, rec => .ok rec
  | f :: rest, i, items, rec =>
    match items with
    | v :: more => do
      let set ← f.ofValue v
      itemsOfValue r rest (i + 1) more (set rec)
    | [] =>
      match f.absent with
      | .defaulted set => itemsOfValue r rest (i + 1) [] (set rec)
      | _ => .error (.bare (r.shortArray i))

/-- Decode a parsed value into the record. -/
def ofValue {ρ : Type} (r : Record ρ) (v : Value) : Except Fault ρ :=
  match v with
  | .object members => do
    let (rec, seen) ← membersOfValue r.fields members [] r.base
    (fillMissing r.fields seen 0 rec).mapError Fault.bare
  | .array items => do
    let rec ← itemsOfValue r r.fields 0 items r.base
    if r.fields.length < items.length then
      .error (.bare (.invalidLength items.length "fewer elements in array"))
    else .ok rec
  | other => Decoder.mismatch r.expecting other

/-- Read object members after the `{`: a decoding problem of the record itself is answered,
not thrown, so that the caller can place it after the closing brace. -/
def readMembers {ρ : Type} (r : Record ρ) :
    Nat → Bool → List Nat → ρ → Reader (Except Problem ρ)
  | 0, _, _, _ => Reader.fail .eofWhileParsingObject
  | fuel + 1, first, seen, rec => do
    match ← Reader.mapNext first with
    | none => return fillMissing r.fields seen 0 rec
    | some k =>
      match lookup r.fields k with
      | none => do
        Reader.colon
        Reader.skipAny
        readMembers r fuel false seen rec
      | some (i, f) =>
        if seen.contains i then return .error (.duplicateField f.name)
        else do
          Reader.colon
          let set ← f.read
          readMembers r fuel false (i :: seen) (set rec)

/-- Read array items by position after the `[`. -/
def readItems {ρ : Type} (r : Record ρ) :
    List (Field ρ) → Nat → Bool → ρ → Reader (Except Problem ρ)
  | [], _, _, rec => return .ok rec
  | f :: rest, i, first, rec => do
    if ← Reader.seqNext first then
      let set ← f.read
      readItems r rest (i + 1) false (set rec)
    else
      match f.absent with
      | .defaulted set => readItems r rest (i + 1) first (set rec)
      | _ => return .error (r.shortArray i)

/-- Consume what closing an object would, without failing. -/
def closeMapQuietly : Reader Unit := do
  if (← Reader.blank) == some 125 then Reader.bump

/-- Consume what closing an array would, without failing. -/
def closeSeqQuietly : Reader Unit := do
  match ← Reader.blank with
  | some 93 => Reader.bump
  | some 44 => do Reader.bump; discard Reader.blank
  | _ => pure ()

/-- Read the record from text: an object or an array of its fields. -/
def read {ρ : Type} (r : Record ρ) : Reader ρ := do
  match ← Reader.blank with
  | none => Reader.failAhead .eofWhileParsingValue
  | some 123 => do
    Reader.bump
    match ← readMembers r (Reader.fuelFor (← get).length) true [] r.base with
    | .ok rec => do Reader.endMap; return rec
    | .error p => do closeMapQuietly; Decoder.failPlaced p
  | some 91 => do
    Reader.bump
    match ← readItems r r.fields 0 true r.base with
    | .ok rec => do Reader.endSeq; return rec
    | .error p => do closeSeqQuietly; Decoder.failPlaced p
  | some _ => throw (← Reader.invalidType r.expecting)

/-- The decoder of the record. -/
def decoder {ρ : Type} (r : Record ρ) : Decoder ρ :=
  { expecting := r.expecting, ofValue := r.ofValue, read := r.read }

end Record

end Json
end DocClient
