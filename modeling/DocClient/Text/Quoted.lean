import DocClient.Text.Escaped

namespace DocClient
namespace Text

/-!
# Quoted strings in debug views

Debug views (`Collection { name: "users", … }`) and messages about unexpected strings show a
string between double quotes, with the characters that would not read well escaped: the quote
and the backslash, NUL, tab, carriage return and line feed by their short escapes, and every
other character that is not printable, or that combines with the character before it, as
`\u{hex}` with lowercase digits and no leading zeros.

`printable` decides the second group from the table of `Text.escapedRanges`.
-/

/-- Whether a debug view writes `c` as itself. -/
def printable (c : Char) : Bool :=
  !escapesCode c.toNat

/-- The lowercase hexadecimal digits of `n`, without leading zeros. -/
def hexText (n : Nat) : String :=
  String.ofList (Nat.toDigits 16 n)

/-- How a debug view writes one character inside double quotes. -/
def debugChar (c : Char) : String :=
  if c = '"' then "\\\""
  else if c = '\\' then "\\\\"
  else if c.toNat = 0 then "\\0"
  else if c = '\t' then "\\t"
  else if c = '\r' then "\\r"
  else if c = '\n' then "\\n"
  else if printable c then String.singleton c
  else "\\u\x7b" ++ hexText c.toNat ++ "\x7d"

/-- A string as a debug view shows it, quotes included. -/
def debugQuote (s : String) : String :=
  "\"" ++ String.join (s.toList.map debugChar) ++ "\""

end Text
end DocClient
