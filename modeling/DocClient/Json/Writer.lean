import DocClient.Json.Value
import DocClient.Decimal.Shortest

namespace DocClient
namespace Json

/-!
# Compact JSON text

Values are written without blanks, object members in their (sorted) order. Strings escape the
quote, the backslash and the control characters below U+0020, the usual five by their short
forms and the rest as `\u00xx`; every other character is written as itself.
-/

/-- Doubles are written with their shortest digits: positionally while the decimal point falls
at most 16 places right of the first digit place and less than five places left of it (an
integral value keeps a `.0`), otherwise as `d.ddde±x` with an explicit `+`. -/
def floatLayout : Decimal.Layout := { maxPoint := 16, minPoint := -5, plusSign := true }

/-- The text of a double: its shortest form, or `inf`, `-inf` and `NaN`. -/
def floatText (x : Float) : String :=
  if x.isNaN then "NaN"
  else if x.isInf then (if x < 0 then "-inf" else "inf")
  else floatLayout.render x

/-- The text of a number. A double that is not finite has no JSON text and is written `null`. -/
def Number.render : Number → String
  | .unsigned n => toString n.toNat
  | .signed n => toString n.toInt
  | .float x => if x.isFinite then floatLayout.render x else "null"

/-- The lowercase hexadecimal digit of `n < 16`. -/
def hexDigit (n : Nat) : Char :=
  if n < 10 then Char.ofNat (48 + n) else Char.ofNat (87 + n)

/-- The escaped form of one character inside a string. -/
def escapeChar (c : Char) : List Char :=
  if c = '"' then ['\\', '"']
  else if c = '\\' then ['\\', '\\']
  else if c = '\n' then ['\\', 'n']
  else if c = '\r' then ['\\', 'r']
  else if c = '\t' then ['\\', 't']
  else if c.toNat = 8 then ['\\', 'b']
  else if c.toNat = 12 then ['\\', 'f']
  else if c.toNat < 32 then ['\\', 'u', '0', '0', hexDigit (c.toNat / 16), hexDigit (c.toNat % 16)]
  else [c]

/-- A string as a JSON string literal. -/
def quote (s : String) : String :=
  String.ofList ('"' :: (s.toList.flatMap escapeChar ++ ['"']))

namespace Value

mutual

/-- The compact text of a value. -/
def render : Value → String
  | null => "null"
  | bool true => "true"
  | bool false => "false"
  | number n => n.render
  | string s => quote s
  | array items => "[" ++ String.intercalate "," (renderItems items) ++ "]"
  | object members => "\x7b" ++ String.intercalate "," (renderMembers members) ++ "\x7d"

/-- The texts of the items of an array. -/
def renderItems : List Value → List String
  | [] => []
  | v :: rest => render v :: renderItems rest

/-- The texts of the members of an object. -/
def renderMembers : List (String × Value) → List String
  | [] => []
  | (k, v) :: rest => (quote k ++ ":" ++ render v) :: renderMembers rest

end

end Value

end Json
end DocClient
