import DocClient.Json.Fault
import DocClient.Text.Utf8

namespace DocClient
namespace Json

/-!
# Reading JSON text: the lexical pieces

A `Reader` step works on the bytes of the input that are still unread and either fails with a
`Fault` or answers with what is left after it. Failing "here" records the bytes left now;
failing "ahead" records one byte fewer, the place just after the next byte.

Strings are read with their escapes; a `\u` escape of a leading surrogate must be followed by
one of a trailing surrogate, and the decoded string must be UTF-8. That last check comes once
the closing quote is read, and its fault is placed as if the decoded bytes ended just after the
quote: as many bytes before that place as follow the start of the first ill-formed sequence.
Numbers follow the grammar of JSON with one rule for their value: an integer that fits in 64
bits stays an integer (unsigned, or signed if negative), and every other number becomes a
double computed from at most nineteen or twenty significant digits and a power of ten
(`Reader.scaleByPow10`).
-/

/-- A step of reading: the unread bytes in, a result or a fault out. -/
abbrev Reader := StateT (List UInt8) (Except Fault)

namespace Reader

/-- The next byte, not consumed. -/
def peek : Reader (Option UInt8) := do
  return (← get).head?

/-- Consume one byte. -/
def bump : Reader Unit :=
  modify List.tail

/-- Consume and return the next byte. -/
def next : Reader (Option UInt8) := do
  match ← get with
  | [] => return none
  | c :: rest =>
    set rest
    return some c

/-- Fail here. -/
def fail {α : Type} (code : SyntaxCode) : Reader α := do
  throw (Fault.at (.malformed code) (← get).length)

/-- Fail just after the next byte. -/
def failAhead {α : Type} (code : SyntaxCode) : Reader α := do
  throw (Fault.at (.malformed code) ((← get).length - 1))

/-- The blanks of JSON: space, line feed, tab and carriage return. -/
def isBlank (c : UInt8) : Bool :=
  c == 32 || c == 10 || c == 9 || c == 13

/-- Skip blanks and return the next byte, not consumed. -/
def blank : Reader (Option UInt8) := do
  let rest := (← get).dropWhile isBlank
  set rest
  return rest.head?

/-- Read the given bytes of a literal such as `null`, after its first letter. -/
def ident : List UInt8 → Reader Unit
  | [] => pure ()
  | b :: bs => do
    match ← next with
    | none => fail .eofWhileParsingValue
    | some c => if c == b then ident bs else fail .expectedSomeIdent

/-! ## Strings -/

/-- The value of a hexadecimal digit. -/
def hexValue (c : UInt8) : Option Nat :=
  if 48 ≤ c ∧ c ≤ 57 then some (c.toNat - 48)
  else if 65 ≤ c ∧ c ≤ 70 then some (c.toNat - 55)
  else if 97 ≤ c ∧ c ≤ 102 then some (c.toNat - 87)
  else none

/-- Read the four hexadecimal digits of a `\u` escape. -/
def hex4 : Reader Nat := do
  match ← get with
  | a :: b :: c :: d :: tail =>
    set tail
    match hexValue a, hexValue b, hexValue c, hexValue d with
    | some w, some x, some y, some z => return ((w * 16 + x) * 16 + y) * 16 + z
    | _, _, _, _ => fail .invalidEscape
  | _ =>
    set ([] : List UInt8)
    fail .eofWhileParsingString

/-- Append the UTF-8 bytes of code point `n`. -/
def pushCodePoint (acc : Array UInt8) (n : Nat) : Array UInt8 :=
  acc ++ (String.singleton (Char.ofNat n)).toUTF8.toList.toArray

/-- Read a `\u` escape, after the `u`. -/
def unicodeEscape (acc : Array UInt8) : Reader (Array UInt8) := do
  let n ← hex4
  if 0xDC00 ≤ n ∧ n ≤ 0xDFFF then fail .loneLeadingSurrogateInHexEscape
  else if n < 0xD800 ∨ 0xDBFF < n then return pushCodePoint acc n
  else
    match ← peek with
    | none => fail .eofWhileParsingString
    | some 92 =>
      bump
      match ← peek with
      | none => fail .eofWhileParsingString
      | some 117 =>
        bump
        let n2 ← hex4
        if n2 < 0xDC00 ∨ 0xDFFF < n2 then fail .loneLeadingSurrogateInHexEscape
        else return pushCodePoint acc ((n - 0xD800) * 1024 + (n2 - 0xDC00) + 0x10000)
      | some _ =>
        bump
        fail .unexpectedEndOfHexEscape
    | some _ =>
      bump
      fail .unexpectedEndOfHexEscape

/-- Read an escape, after the backslash. -/
def escape (acc : Array UInt8) : Reader (Array UInt8) := do
  match ← next with
  | none => fail .eofWhileParsingString
  | some c =>
    if c == 34 then return acc.push 34
    else if c == 92 then return acc.push 92
    else if c == 47 then return acc.push 47
    else if c == 98 then return acc.push 8
    else if c == 102 then return acc.push 12
    else if c == 110 then return acc.push 10
    else if c == 114 then return acc.push 13
    else if c == 116 then return acc.push 9
    else if c == 117 then unicodeEscape acc
    else fail .invalidEscape

/-- Read the bytes of a string up to and including its closing quote, with its escapes
decoded onto `acc`. A control character or a bad escape fails where it is met; `fuel` bounds
the number of bytes read. -/
def stringBytes : Nat → Array UInt8 → Reader (Array UInt8)
  | 0, _ => fail .eofWhileParsingString
  | fuel + 1, acc => do
    match ← next with
    | none => fail .eofWhileParsingString
    | some c =>
      if c == 34 then return acc
      else if c == 92 then stringBytes fuel (← escape acc)
      else if c < 32 then fail .controlCharacterWhileParsingString
      else stringBytes fuel (acc.push c)

/-- The place of the fault in a decoded string that is not UTF-8, as a count of unread bytes:
counting back from just after the closing quote, where `left` bytes are unread, by the decoded
bytes from the first ill-formed sequence on. -/
def invalidAt (left : Nat) (bytes : Array UInt8) (k : Nat) : Fault :=
  Fault.at (.malformed .invalidUnicodeCodePoint) (left + (bytes.size - k))

/-- Read a string whose opening quote has been read. The whole string is read and its escapes
decoded before its bytes are checked to be UTF-8, so any other fault in it comes first. -/
def string : Reader String := do
  let bytes ← stringBytes ((← get).length + 1) #[]
  let left := (← get).length
  match Text.Utf8.firstInvalid bytes.toList with
  | some k => throw (invalidAt left bytes k)
  | none =>
    match String.fromUTF8? (ByteArray.mk bytes) with
    | some s => return s
    | none => throw (invalidAt left bytes 0)

/-- Skip an escape, after the backslash, checking only its form. -/
def skipEscape : Reader Unit := do
  match ← next with
  | none => fail .eofWhileParsingString
  | some c =>
    if c == 34 || c == 92 || c == 47 || c == 98 || c == 102 || c == 110 || c == 114 || c == 116
    then pure ()
    else if c == 117 then discard hex4
    else fail .invalidEscape

/-- Skip the rest of a string, up to and including its closing quote. -/
def skipStringBytes : Nat → Reader Unit
  | 0 => fail .eofWhileParsingString
  | fuel + 1 => do
    match ← get with
    | [] => fail .eofWhileParsingString
    | c :: rest =>
      if c == 34 then set rest
      else if c == 92 then
        set rest
        skipEscape
        skipStringBytes fuel
      else if c < 32 then fail .controlCharacterWhileParsingString
      else
        set rest
        skipStringBytes fuel

/-- Skip a string whose opening quote has been read. -/
def skipString : Reader Unit := do
  skipStringBytes ((← get).length + 1)

/-! ## Numbers -/

/-- Whether a byte is a decimal digit. -/
def isDigit (c : UInt8) : Bool :=
  48 ≤ c && c ≤ 57

/-- The largest unsigned 64-bit integer. -/
def u64Max : Nat := Nat.pow 2 64 - 1

/-- Append digits to a significand while it stays at most `u64Max`. Answers the significand,
how many digits were taken and the rest, which starts with a digit exactly when that digit
would have overflowed the significand. -/
def takeSignificand : Nat → Nat → List UInt8 → Nat × Nat × List UInt8
  | sig, n, c :: rest =>
    if isDigit c ∧ sig * 10 + (c.toNat - 48) ≤ u64Max then
      takeSignificand (sig * 10 + (c.toNat - 48)) (n + 1) rest
    else (sig, n, c :: rest)
  | sig, n, [] => (sig, n, [])

/-- Skip digits, counting them. -/
def dropDigits : Nat → List UInt8 → Nat × List UInt8
  | n, c :: rest => if isDigit c then dropDigits (n + 1) rest else (n, c :: rest)
  | n, [] => (n, [])

/-- Exactly `10 ^ i`, rounded to the nearest double. -/
def pow10 (i : Nat) : Float :=
  Float.ofScientific 1 false i

/-- `f · 10 ^ e` the way a significand and an exponent are joined: one multiplication or
division by a power of ten up to `10 ^ 308`; below that, divisions by `10 ^ 308` first, and a
zero stays zero. `none` when the value overflows (exponents above 308 always do unless the
significand is zero). -/
def scaleByPow10 : Nat → Float → Int → Option Float
  | 0, f, _ => some f
  | fuel + 1, f, e =>
    if e.natAbs ≤ 308 then
      if 0 ≤ e then
        let g := f * pow10 e.natAbs
        if g.isInf then none else some g
      else some (f / pow10 e.natAbs)
    else if f == 0 then some f
    else if 0 ≤ e then none
    else scaleByPow10 fuel (f / pow10 308) (e + 308)

/-- The double for `± sig · 10 ^ e`, failing when it is out of range. -/
def fromParts (positive : Bool) (sig : Nat) (e : Int) : Reader Float := do
  match scaleByPow10 8 (Float.ofNat sig) e with
  | none => fail .numberOutOfRange
  | some f => return (if positive then f else -f)

/-- Clamp an exponent to the signed 32-bit range. -/
def clampExponent (e : Int) : Int :=
  max (-2147483648) (min 2147483647 e)

/-- Append exponent digits while the exponent stays within signed 32 bits. `none` when a digit
overflowed it; that digit is consumed. -/
def exponentDigits : Nat → List UInt8 → Option Nat × List UInt8
  | e, c :: rest =>
    if isDigit c then
      if e * 10 + (c.toNat - 48) > 2147483647 then (none, rest)
      else exponentDigits (e * 10 + (c.toNat - 48)) rest
    else (some e, c :: rest)
  | e, [] => (some e, [])

/-- Read an exponent, at its `e`, for the significand `sig` scaled so far by `10 ^ start`. An
exponent too large for 32 bits makes the number zero when it is negative or the significand is
zero, and is out of range otherwise. -/
def exponentPart (positive : Bool) (sig : Nat) (start : Int) : Reader Float := do
  bump
  let positiveExp ← do
    match ← peek with
    | some 43 => bump; pure true
    | some 45 => bump; pure false
    | _ => pure true
  match ← next with
  | none => fail .eofWhileParsingValue
  | some c =>
    if !isDigit c then fail .invalidNumber
    else
      let (digits, rest) := exponentDigits (c.toNat - 48) (← get)
      set rest
      match digits with
      | some e =>
        fromParts positive sig (clampExponent (if positiveExp then start + e else start - e))
      | none =>
        if sig != 0 && positiveExp then fail .numberOutOfRange
        else
          set (dropDigits 0 rest).2
          return (if positive then 0.0 else -0.0)

/-- Read a fraction, at its point, for the significand `sig` scaled so far by `10 ^ start`.
Digits that no longer fit the significand are skipped. -/
def fractionPart (positive : Bool) (sig : Nat) (start : Int) : Reader Float := do
  bump
  let (sig, n, rest) := takeSignificand sig 0 (← get)
  set rest
  let e := start - n
  match rest with
  | c :: _ =>
    if isDigit c then
      let rest := (dropDigits 0 rest).2
      set rest
      match rest with
      | c :: _ => if c == 101 || c == 69 then exponentPart positive sig e else fromParts positive sig e
      | [] => fromParts positive sig e
    else if n = 0 then failAhead .invalidNumber
    else if c == 101 || c == 69 then exponentPart positive sig e
    else fromParts positive sig e
  | [] => if n = 0 then failAhead .eofWhileParsingValue else fromParts positive sig e

/-- Read the rest of an integer too long for 64 bits, whose first digits gave `sig`: the
remaining integer digits only scale it. -/
def longInteger (positive : Bool) (sig : Nat) : Reader Float := do
  let (n, rest) := dropDigits 0 (← get)
  set rest
  match rest with
  | c :: _ =>
    if c == 46 then fractionPart positive sig n
    else if c == 101 || c == 69 then exponentPart positive sig n
    else fromParts positive sig n
  | [] => fromParts positive sig n

/-- The number after its integer part `sig` was read: a fraction or an exponent make it a
double; otherwise it is an integer, unsigned when positive, signed when negative and within
64 bits, and a double (`-0.0` for `-0`) otherwise. -/
def afterInteger (positive : Bool) (sig : Nat) : Reader Number := do
  match ← peek with
  | some 46 => return .float (← fractionPart positive sig 0)
  | some 101 => return .float (← exponentPart positive sig 0)
  | some 69 => return .float (← exponentPart positive sig 0)
  | _ =>
    if positive then return .unsigned sig.toUInt64
    else if 0 < sig ∧ sig ≤ Nat.pow 2 63 then return .signed (Int64.ofInt (-(sig : Int)))
    else return .float (-(Float.ofNat sig))

/-- Read a number after its sign. -/
def number (positive : Bool) : Reader Number := do
  match ← next with
  | none => fail .eofWhileParsingValue
  | some c =>
    if c == 48 then
      match ← peek with
      | some d => if isDigit d then failAhead .invalidNumber else afterInteger positive 0
      | none => afterInteger positive 0
    else if 49 ≤ c ∧ c ≤ 57 then
      let (sig, _, rest) := takeSignificand (c.toNat - 48) 0 (← get)
      set rest
      match rest with
      | d :: _ => if isDigit d then return .float (← longInteger positive sig) else afterInteger positive sig
      | [] => afterInteger positive sig
    else fail .invalidNumber

/-- Skip the exponent of a number, at its `e`, checking only its form. -/
def skipExponent : Reader Unit := do
  bump
  match ← peek with
  | some 43 => bump
  | some 45 => bump
  | _ => pure ()
  match ← get with
  | c :: rest =>
    if isDigit c then set (dropDigits 0 rest).2 else do set rest; fail .invalidNumber
  | [] => fail .invalidNumber

/-- Skip a number after its sign, checking only its form. -/
def skipNumber : Reader Unit := do
  match ← get with
  | [] => fail .invalidNumber
  | c :: rest =>
    set rest
    if c == 48 then
      match rest with
      | d :: _ => if isDigit d then failAhead .invalidNumber else pure ()
      | [] => pure ()
    else if 49 ≤ c ∧ c ≤ 57 then set (dropDigits 0 rest).2
    else fail .invalidNumber
  match ← peek with
  | some 46 =>
    bump
    let (n, rest) := dropDigits 0 (← get)
    set rest
    if n = 0 then failAhead .invalidNumber
    else
      match rest with
      | c :: _ => if c == 101 || c == 69 then skipExponent else pure ()
      | [] => pure ()
  | some 101 => skipExponent
  | some 69 => skipExponent
  | _ => pure ()

end Reader

end Json
end DocClient
