namespace DocClient
namespace Text
namespace Utf8

/-!
# Well-formed UTF-8

A byte sequence is well-formed UTF-8 when it splits into the sequences of the Unicode
Standard's table of well-formed byte sequences: one ASCII byte; a lead byte `C2`–`DF` and one
continuation byte; `E0` then `A0`–`BF`, `ED` then `80`–`9F`, or another lead `E1`–`EF`, each
followed by continuation bytes up to three in all; `F0` then `90`–`BF`, `F4` then `80`–`8F`, or
`F1`–`F3`, each followed by continuation bytes up to four in all. The narrowed second bytes
exclude overlong forms, surrogates and code points past U+10FFFF.

`firstInvalid` finds where the first ill-formed sequence starts, which is where a reader of
UTF-8 text reports it.
-/

/-- Whether a byte lies in the inclusive range `lo`–`hi`. -/
def within (lo hi b : UInt8) : Bool :=
  lo ≤ b && b ≤ hi

/-- Whether a byte is a continuation byte, `80`–`BF`. -/
def continuation (b : UInt8) : Bool :=
  within 0x80 0xBF b

/-- The length of the well-formed sequence that `bs` starts with, or `none` when it starts with
an ill-formed or cut-off sequence, or is empty. -/
def sequenceLength : List UInt8 → Option Nat
  | [] => none
  | b :: rest =>
    if b < 0x80 then some 1
    else
      let second (lo hi : UInt8) : Bool :=
        match rest with
        | c :: _ => within lo hi c
        | [] => false
      -- `more k`: the `k` bytes after the second are there and are continuation bytes
      let more (k : Nat) : Bool :=
        (rest.drop 1).length ≥ k && ((rest.drop 1).take k).all continuation
      if within 0xC2 0xDF b then (if second 0x80 0xBF then some 2 else none)
      else if b == 0xE0 then (if second 0xA0 0xBF && more 1 then some 3 else none)
      else if b == 0xED then (if second 0x80 0x9F && more 1 then some 3 else none)
      else if within 0xE1 0xEF b then (if second 0x80 0xBF && more 1 then some 3 else none)
      else if b == 0xF0 then (if second 0x90 0xBF && more 2 then some 4 else none)
      else if b == 0xF4 then (if second 0x80 0x8F && more 2 then some 4 else none)
      else if within 0xF1 0xF3 b then (if second 0x80 0xBF && more 2 then some 4 else none)
      else none

/-- The offset, counted from `start`, of the first ill-formed sequence of `bs`; `fuel` bounds
the number of sequences looked at. -/
def firstInvalidFrom : Nat → Nat → List UInt8 → Option Nat
  | _, _, [] => none
  | 0, start, _ => some start
  | fuel + 1, start, bs =>
    match sequenceLength bs with
    | some n => firstInvalidFrom fuel (start + n) (bs.drop n)
    | none => some start

/-- The offset of the first byte of the first ill-formed sequence of `bs`, or `none` when `bs`
is well-formed UTF-8. -/
def firstInvalid (bs : List UInt8) : Option Nat :=
  firstInvalidFrom bs.length 0 bs

end Utf8
end Text
end DocClient
