import DocClient.Error

namespace DocClient

/-!
# Document keys

A key is checked before it is put on the wire: it must be non-empty, at most 254 bytes of
UTF-8, and made only of ASCII letters and digits and the characters `_ - : . @ ( ) + , = ; $ !
* ' %`. The checks run in that order, so a key that is both too long and badly formed is
reported as too long.

In a request path a key is one segment: every byte outside the unreserved set
`A-Z a-z 0-9 - . _ ~` is written `%XX` with uppercase hexadecimal digits, so an escaped key
never holds `/`, `?` or `#`.
-/

namespace Key

/-- The longest key, in bytes. -/
def maxBytes : Nat := 254

/-- The punctuation allowed in keys besides letters and digits. -/
def punctuation : List Char :=
  ['_', '-', ':', '.', '@', '(', ')', '+', ',', '=', ';', '$', '!', '*', '\'', '%']

/-- Whether a character may appear in a key. -/
def allowedChar (c : Char) : Bool :=
  ('A' ≤ c && c ≤ 'Z') || ('a' ≤ c && c ≤ 'z') || ('0' ≤ c && c ≤ '9') || punctuation.contains c

/-- Check a key against the key grammar. -/
def validate (key : String) : Except Error Unit :=
  if key.isEmpty then .error (.invalidKey "key is empty")
  else if key.utf8ByteSize > maxBytes then
    .error (.invalidKey ("key is " ++ toString key.utf8ByteSize ++ " bytes long, maximum is " ++
      toString maxBytes))
  else if key.toList.all allowedChar then .ok ()
  else .error (.invalidKey ("key '" ++ key ++ "' contains characters outside the allowed set"))

/-- Whether a byte is left as it is in a path segment. -/
def unreserved (b : UInt8) : Bool :=
  (65 ≤ b && b ≤ 90) || (97 ≤ b && b ≤ 122) || (48 ≤ b && b ≤ 57) ||
    b == 45 || b == 46 || b == 95 || b == 126

/-- The uppercase hexadecimal digit of `n < 16`. -/
def upperHex (n : Nat) : Char :=
  if n < 10 then Char.ofNat (48 + n) else Char.ofNat (55 + n)

/-- The characters one byte becomes in a path segment. -/
def escapeByte (b : UInt8) : List Char :=
  if unreserved b then [Char.ofNat b.toNat]
  else ['%', upperHex (b.toNat / 16), upperHex (b.toNat % 16)]

/-- A key as one path segment. -/
def escape (key : String) : String :=
  String.ofList (key.toUTF8.toList.flatMap escapeByte)

end Key

end DocClient
