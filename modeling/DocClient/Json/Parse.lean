import DocClient.Json.Reader

namespace DocClient
namespace Json

/-!
# Reading JSON values

`Reader.value` reads one value of any kind; arrays and objects nest at most 127 deep.
`Reader.skipValue` passes over a value without building it and checks less: it does not
compute numbers or decode strings, and reads no text after a comma as a trailing comma.
`parse` reads a whole text holding one value, with blanks around it.

The steps between the items of an array and the members of an object (`seqNext`, `mapNext`,
`colon`, `endSeq`, `endMap`) are shared with the decoders of fixed shapes.
-/

namespace Reader

/-- Move to the next item of an array: `false` at its end, whose `]` stays unread. -/
def seqNext (first : Bool) : Reader Bool := do
  let c ← blank
  if c == some 93 then return false
  let ahead ←
    if c == some 44 && !first then do bump; blank
    else if c.isNone then failAhead .eofWhileParsingList
    else if first then pure c
    else failAhead .expectedListCommaOrEnd
  match ahead with
  | some 93 => failAhead .trailingComma
  | some _ => return true
  | none => failAhead .eofWhileParsingValue

/-- Move to the next member of an object and read its name: `none` at its end, whose `}`
stays unread. -/
def mapNext (first : Bool) : Reader (Option String) := do
  let c ← blank
  if c == some 125 then return none
  let ahead ←
    if c == some 44 && !first then do bump; blank
    else if c.isNone then failAhead .eofWhileParsingObject
    else if first then pure c
    else failAhead .expectedObjectCommaOrEnd
  match ahead with
  | some 34 =>
    bump
    return some (← string)
  | some 125 => failAhead .trailingComma
  | some _ => failAhead .keyMustBeAString
  | none => failAhead .eofWhileParsingValue

/-- Read the colon after a member name. -/
def colon : Reader Unit := do
  match ← blank with
  | some 58 => bump
  | some _ => failAhead .expectedColon
  | none => failAhead .eofWhileParsingObject

/-- Read the `]` that closes an array. -/
def endSeq : Reader Unit := do
  match ← blank with
  | some 93 => bump
  | some 44 =>
    bump
    match ← blank with
    | some 93 => failAhead .trailingComma
    | _ => failAhead .trailingCharacters
  | some _ => failAhead .trailingCharacters
  | none => failAhead .eofWhileParsingList

/-- Read the `}` that closes an object. -/
def endMap : Reader Unit := do
  match ← blank with
  | some 125 => bump
  | some 44 => failAhead .trailingComma
  | some _ => failAhead .trailingCharacters
  | none => failAhead .eofWhileParsingObject

/-- The nesting depth a reader starts with; an array or object entered with one level left
fails. -/
def maxDepth : Nat := 128

mutual

/-- Read one value. `fuel` bounds the steps and `depth` is the nesting still allowed. -/
def value : Nat → Nat → Reader Value
  | 0, _ => fail .eofWhileParsingValue
  | fuel + 1, depth => do
    match ← blank with
    | none => failAhead .eofWhileParsingValue
    | some c =>
      if c == 110 then do bump; ident [117, 108, 108]; return .null
      else if c == 116 then do bump; ident [114, 117, 101]; return .bool true
      else if c == 102 then do bump; ident [97, 108, 115, 101]; return .bool false
      else if c == 45 then do bump; return .number (← number false)
      else if isDigit c then return .number (← number true)
      else if c == 34 then do bump; return .string (← string)
      else if c == 91 then
        if depth ≤ 1 then failAhead .recursionLimitExceeded
        else do
          bump
          let xs ← items fuel (depth - 1) true []
          endSeq
          return .array xs
      else if c == 123 then
        if depth ≤ 1 then failAhead .recursionLimitExceeded
        else do
          bump
          let ms ← members fuel (depth - 1) true []
          endMap
          return .object ms
      else failAhead .expectedSomeValue

/-- Read the items of an array after the first `acc` (kept in reverse). -/
def items : Nat → Nat → Bool → List Value → Reader (List Value)
  | 0, _, _, _ => fail .eofWhileParsingList
  | fuel + 1, depth, first, acc => do
    if ← seqNext first then
      let v ← value fuel depth
      items fuel depth false (v :: acc)
    else return acc.reverse

/-- Read the members of an object into the sorted member list `acc`. -/
def members : Nat → Nat → Bool → List (String × Value) → Reader (List (String × Value))
  | 0, _, _, _ => fail .eofWhileParsingObject
  | fuel + 1, depth, first, acc => do
    match ← mapNext first with
    | none => return acc
    | some k =>
      colon
      let v ← value fuel depth
      members fuel depth false (Value.insertMember k v acc)

end

mutual

/-- Pass over one value, checking its form only. -/
def skipValue : Nat → Reader Unit
  | 0 => fail .eofWhileParsingValue
  | fuel + 1 => do
    match ← blank with
    | none => failAhead .eofWhileParsingValue
    | some c =>
      if c == 110 then do bump; ident [117, 108, 108]
      else if c == 116 then do bump; ident [114, 117, 101]
      else if c == 102 then do bump; ident [97, 108, 115, 101]
      else if c == 45 then do bump; skipNumber
      else if isDigit c then skipNumber
      else if c == 34 then do bump; skipString
      else if c == 91 then do
        bump
        match ← blank with
        | some 93 => bump
        | none => failAhead .eofWhileParsingList
        | some _ => skipItems fuel
      else if c == 123 then do
        bump
        match ← blank with
        | some 125 => bump
        | none => failAhead .eofWhileParsingObject
        | some _ => skipMembers fuel
      else failAhead .expectedSomeValue

/-- Pass over the items of an array from its next item up to its `]`. -/
def skipItems : Nat → Reader Unit
  | 0 => fail .eofWhileParsingList
  | fuel + 1 => do
    skipValue fuel
    match ← blank with
    | some 44 => do bump; skipItems fuel
    | some 93 => bump
    | some _ => failAhead .expectedListCommaOrEnd
    | none => failAhead .eofWhileParsingList

/-- Pass over the members of an object from its next member up to its `}`. -/
def skipMembers : Nat → Reader Unit
  | 0 => fail .eofWhileParsingObject
  | fuel + 1 => do
    match ← blank with
    | some 34 => bump
    | some _ => failAhead .keyMustBeAString
    | none => failAhead .eofWhileParsingObject
    skipString
    match ← blank with
    | some 58 => bump
    | some _ => failAhead .expectedColon
    | none => failAhead .eofWhileParsingObject
    skipValue fuel
    match ← blank with
    | some 44 => do bump; skipMembers fuel
    | some 125 => bump
    | some _ => failAhead .expectedObjectCommaOrEnd
    | none => failAhead .eofWhileParsingObject

end

/-- Steps enough for any value in `n` bytes. -/
def fuelFor (n : Nat) : Nat := 2 * n + 4

/-- Read one value of any kind. -/
def anyValue : Reader Value := do
  value (fuelFor (← get).length) maxDepth

/-- Pass over one value of any kind. -/
def skipAny : Reader Unit := do
  skipValue (fuelFor (← get).length)

/-- Give a placeless fault the current place. -/
def placed (f : Fault) : Reader Fault := do
  match f.left with
  | some _ => return f
  | none => return { f with left := some (← get).length }

/-- The fault for a value of the wrong kind where `expected` was wanted, read as far as needed
to name it: literals, numbers and strings are read whole, arrays and objects not at all. -/
def invalidType (expected : String) : Reader Fault := do
  match ← peek with
  | some c =>
    if c == 110 then do bump; ident [117, 108, 108]; placed (.bare (.invalidType .null expected))
    else if c == 116 then do
      bump; ident [114, 117, 101]; placed (.bare (.invalidType (.bool true) expected))
    else if c == 102 then do
      bump; ident [97, 108, 115, 101]; placed (.bare (.invalidType (.bool false) expected))
    else if c == 45 then do
      bump
      let n ← number false
      placed (.bare (.invalidType n.unexpected expected))
    else if isDigit c then do
      let n ← number true
      placed (.bare (.invalidType n.unexpected expected))
    else if c == 34 then do
      bump
      let s ← string
      placed (.bare (.invalidType (.string s) expected))
    else if c == 91 then placed (.bare (.invalidType .sequence expected))
    else if c == 123 then placed (.bare (.invalidType .map expected))
    else return Fault.at (.malformed .expectedSomeValue) ((← get).length - 1)
  | none => return Fault.at (.malformed .expectedSomeValue) 0

/-- Require that only blanks are left. -/
def finish : Reader Unit := do
  match ← blank with
  | some _ => failAhead .trailingCharacters
  | none => pure ()

end Reader

/-- Run a reader over a whole input, requiring only blanks after what it reads. -/
def readAll {α : Type} (r : Reader α) (input : List UInt8) : Except Fault α :=
  match (do let a ← r; Reader.finish; return a : Reader α).run input with
  | .ok (a, _) => .ok a
  | .error f => .error f

/-- Parse a text holding one JSON value. -/
def parse (input : List UInt8) : Except Fault Value :=
  readAll Reader.anyValue input

/-- Parse a text holding one JSON value, with the fault's message on failure. -/
def parseText (text : String) : Except String Value :=
  let input := text.toUTF8.toList
  match parse input with
  | .ok v => .ok v
  | .error f => .error (f.message input)

end Json
end DocClient
