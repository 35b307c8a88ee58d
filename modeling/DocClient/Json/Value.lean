namespace DocClient
namespace Json

/-!
# JSON values

A JSON number is kept the way it was read: an integer that fits in 64 unsigned bits stays an
unsigned integer, a negative one that fits in 64 signed bits stays a signed integer, and every
other number is a double. Objects keep their members sorted by name, one member per name; a
name given twice keeps its last value (`Value.insert`).
-/

/-- A JSON number as read from text. `signed` holds only negative values. -/
inductive Number where
  | unsigned (n : UInt64)
  | signed (n : Int64)
  | float (x : Float)
  deriving Inhabited

/-- A JSON value. The members of an `object` are sorted by name, without repeats. -/
inductive Value where
  | null
  | bool (b : Bool)
  | number (n : Number)
  | string (s : String)
  | array (items : List Value)
  | object (members : List (String × Value))
  deriving Inhabited

namespace Value

/-- The kind of a value, as named in messages: `null`, `bool`, `number`, `string`, `array` or
`object`. -/
def kindName : Value → String
  | null => "null"
  | bool _ => "bool"
  | number _ => "number"
  | string _ => "string"
  | array _ => "array"
  | object _ => "object"

/-- Put `(name, v)` into a sorted member list, replacing a member of the same name. -/
def insertMember (name : String) (v : Value) : List (String × Value) → List (String × Value)
  | [] => [(name, v)]
  | (k, w) :: rest =>
    if name < k then (name, v) :: (k, w) :: rest
    else if name = k then (name, v) :: rest
    else (k, w) :: insertMember name v rest

/-- The object with the given members, later members replacing earlier ones of the same name. -/
def ofMembers (members : List (String × Value)) : Value :=
  object (members.foldl (fun acc (k, v) => insertMember k v acc) [])

/-- Look a name up in a member list. -/
def findMember (name : String) : List (String × Value) → Option Value
  | [] => none
  | (k, v) :: rest => if k = name then some v else findMember name rest

/-- The member `name` of an object; `none` for a missing member or a value that is not an
object. -/
def get? (v : Value) (name : String) : Option Value :=
  match v with
  | object members => findMember name members
  | _ => none

/-- The value as an unsigned 64-bit integer, if it is a non-negative integer that was read as
one. Doubles never qualify, even integral ones. -/
def asU64? : Value → Option UInt64
  | number (.unsigned n) => some n
  | _ => none

/-- The value as a string, if it is one. -/
def asString? : Value → Option String
  | string s => some s
  | _ => none

/-- Whether the value is an object. -/
def isObject : Value → Bool
  | object _ => true
  | _ => false

/-- An unsigned integer value. -/
def ofNat (n : Nat) : Value := number (.unsigned n.toUInt64)

end Value

end Json
end DocClient
