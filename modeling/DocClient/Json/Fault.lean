import DocClient.Json.Writer
import DocClient.Text.Quoted

namespace DocClient
namespace Json

/-!
# What goes wrong while reading JSON

A fault is either a syntax error of the text or a complaint of the decoder that wanted a
particular shape. A fault records how many bytes of the input were still unread when it was
found; `Fault.message` turns that into a line and a column of the whole input. A fault found
while decoding an already parsed value has no place and its message has none.
-/

/-- Syntax errors of JSON text. -/
inductive SyntaxCode where
  | eofWhileParsingList
  | eofWhileParsingObject
  | eofWhileParsingString
  | eofWhileParsingValue
  | expectedColon
  | expectedListCommaOrEnd
  | expectedObjectCommaOrEnd
  | expectedSomeIdent
  | expectedSomeValue
  | invalidEscape
  | invalidNumber
  | numberOutOfRange
  | invalidUnicodeCodePoint
  | controlCharacterWhileParsingString
  | keyMustBeAString
  | loneLeadingSurrogateInHexEscape
  | trailingComma
  | trailingCharacters
  | unexpectedEndOfHexEscape
  | recursionLimitExceeded
  deriving DecidableEq, Repr

/-- The text of a syntax error. -/
def SyntaxCode.text : SyntaxCode → String
  | .eofWhileParsingList => "EOF while parsing a list"
  | .eofWhileParsingObject => "EOF while parsing an object"
  | .eofWhileParsingString => "EOF while parsing a string"
  | .eofWhileParsingValue => "EOF while parsing a value"
  | .expectedColon => "expected `:`"
  | .expectedListCommaOrEnd => "expected `,` or `]`"
  | .expectedObjectCommaOrEnd => "expected `,` or `\x7d`"
  | .expectedSomeIdent => "expected ident"
  | .expectedSomeValue => "expected value"
  | .invalidEscape => "invalid escape"
  | .invalidNumber => "invalid number"
  | .numberOutOfRange => "number out of range"
  | .invalidUnicodeCodePoint => "invalid unicode code point"
  | .controlCharacterWhileParsingString =>
    "control character (\\u0000-\\u001F) found while parsing a string"
  | .keyMustBeAString => "key must be a string"
  | .loneLeadingSurrogateInHexEscape => "lone leading surrogate in hex escape"
  | .trailingComma => "trailing comma"
  | .trailingCharacters => "trailing characters"
  | .unexpectedEndOfHexEscape => "unexpected end of hex escape"
  | .recursionLimitExceeded => "recursion limit exceeded"

/-- What a decoder found where it wanted something else. -/
inductive Unexpected where
  | null
  | bool (b : Bool)
  | unsigned (n : Nat)
  | signed (n : Int)
  | float (x : Float)
  | string (s : String)
  | sequence
  | map

/-- How a message names an unexpected value. -/
def Unexpected.text : Unexpected → String
  | .null => "null"
  | .bool b => "boolean `" ++ toString b ++ "`"
  | .unsigned n => "integer `" ++ toString n ++ "`"
  | .signed n => "integer `" ++ toString n ++ "`"
  | .float x => "floating point `" ++ floatText x ++ "`"
  | .string s => "string " ++ Text.debugQuote s
  | .sequence => "sequence"
  | .map => "map"

/-- The unexpected value a number is. -/
def Number.unexpected : Number → Unexpected
  | .unsigned n => .unsigned n.toNat
  | .signed n => .signed n.toInt
  | .float x => .float x

/-- The unexpected value a value is. -/
def Value.unexpected : Value → Unexpected
  | .null => .null
  | .bool b => .bool b
  | .number n => n.unexpected
  | .string s => .string s
  | .array _ => .sequence
  | .object _ => .map

/-- What went wrong. -/
inductive Problem where
  | malformed (code : SyntaxCode)
  | invalidType (found : Unexpected) (expected : String)
  | invalidValue (found : Unexpected) (expected : String)
  | invalidLength (length : Nat) (expected : String)
  | missingField (name : String)
  | duplicateField (name : String)

/-- The text of a problem. -/
def Problem.text : Problem → String
  | .malformed code => code.text
  | .invalidType found expected => "invalid type: " ++ found.text ++ ", expected " ++ expected
  | .invalidValue found expected => "invalid value: " ++ found.text ++ ", expected " ++ expected
  | .invalidLength n expected => "invalid length " ++ toString n ++ ", expected " ++ expected
  | .missingField name => "missing field `" ++ name ++ "`"
  | .duplicateField name => "duplicate field `" ++ name ++ "`"

/-- A problem and, when it was found in text, how many bytes of the input were left unread at
that moment. -/
structure Fault where
  problem : Problem
  left : Option Nat

/-- A problem found in text, with `left` bytes unread. -/
def Fault.at (problem : Problem) (left : Nat) : Fault := ⟨problem, some left⟩

/-- A problem found without a place. -/
def Fault.bare (problem : Problem) : Fault := ⟨problem, none⟩

/-- A line and a column: lines count from 1, the column counts the bytes before the place on
its line. -/
structure Position where
  line : Nat
  column : Nat

/-- The position after the first `index` bytes of `input`. -/
def Position.ofIndex (input : List UInt8) (index : Nat) : Position :=
  let before := input.take index
  let lines := before.count 10
  let column := (before.reverse.takeWhile (· != 10)).length
  { line := lines + 1, column := column }

/-- The message of a fault found while reading `input`: the problem, and for a fault with a
place its line and column. -/
def Fault.message (input : List UInt8) (f : Fault) : String :=
  match f.left with
  | none => f.problem.text
  | some left =>
    let p := Position.ofIndex input (input.length - left)
    f.problem.text ++ " at line " ++ toString p.line ++ " column " ++ toString p.column

end Json
end DocClient
