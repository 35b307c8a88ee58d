namespace DocClient
namespace Decimal

/-!
# Shortest decimal digits of a double

A finite double `x = m · 2 ^ e` stands for every real number that rounds to it: the interval
reaching half a unit of the last place to either side, both ends included exactly when `m` is
even (a tie on reading goes to the even mantissa). The shortest decimal text of `x` is the
decimal `d · 10 ^ k` with the fewest significant digits that lies in that interval; among those,
the one nearest to `x`.

For each digit count `n` only the two neighbours of `x` on the grid of `n`-digit decimals can be
nearest, so `shortest` tries `n = 1, 2, …, 17` and stops at the first grid where a neighbour lies
in the interval. Seventeen digits always suffice for a double. All comparisons are exact, in
`Nat` arithmetic, after both sides are brought to one integer scale.
-/

/-- A finite non-negative double unpacked from its bits: the value is `mantissa · 2 ^ exponent`.
`narrowBelow` holds when the next double below is closer than the next one above, which happens
at the bottom of each binade except the lowest. -/
structure Binary where
  mantissa : Nat
  exponent : Int
  narrowBelow : Bool
  deriving Repr

/-- Unpack the magnitude of a finite double from its IEEE 754 bits (the sign bit is ignored). -/
def Binary.ofBits (bits : UInt64) : Binary :=
  let biased := ((bits >>> 52) &&& 0x7FF).toNat
  let fraction := (bits &&& 0xFFFFFFFFFFFFF).toNat
  if biased = 0 then
    { mantissa := fraction, exponent := -1074, narrowBelow := false }
  else
    { mantissa := fraction + Nat.pow 2 52, exponent := (biased : Int) - 1075,
      narrowBelow := fraction = 0 && biased > 1 }

/-- `a · 2 ^ i` and `b · 10 ^ j`, both multiplied by `2 ^ max (-i) 0 · 10 ^ max (-j) 0` so that
they become natural numbers with the same order. -/
def crossScale (a : Nat) (i : Int) (b : Nat) (j : Int) : Nat × Nat :=
  (a * Nat.pow 2 (max i 0).toNat * Nat.pow 10 (max (-j) 0).toNat,
   b * Nat.pow 10 (max j 0).toNat * Nat.pow 2 (max (-i) 0).toNat)

/-- Compare `a · 2 ^ i` with `b · 10 ^ j`. -/
def compareScaled (a : Nat) (i : Int) (b : Nat) (j : Int) : Ordering :=
  let (l, r) := crossScale a i b j
  compare l r

/-- `⌊m · 2 ^ e / 10 ^ k⌋`. -/
def floorDiv (m : Nat) (e : Int) (k : Int) : Nat :=
  (m * Nat.pow 2 (max e 0).toNat * Nat.pow 10 (max (-k) 0).toNat) /
    (Nat.pow 2 (max (-e) 0).toNat * Nat.pow 10 (max k 0).toNat)

/-- Whether `10 ^ p ≤ m · 2 ^ e`. -/
def reachesPow10 (m : Nat) (e : Int) (p : Int) : Bool :=
  compareScaled m e 1 p != .lt

/-- Move an estimate of the leading decimal exponent to the exact one, a step at a time. -/
def settleExponent (m : Nat) (e : Int) : Nat → Int → Int
  | 0, p => p
  | fuel + 1, p =>
    if !reachesPow10 m e p then settleExponent m e fuel (p - 1)
    else if reachesPow10 m e (p + 1) then settleExponent m e fuel (p + 1)
    else p

/-- The exponent of the leading decimal digit of `m · 2 ^ e` for `m > 0`: the `p` with
`10 ^ p ≤ m · 2 ^ e < 10 ^ (p + 1)`. The estimate from the binary length is off by at most one. -/
def leadExponent (m : Nat) (e : Int) : Int :=
  settleExponent m e 4 ((((Nat.log2 m : Nat) : Int) + e) * 78913 / 262144)

/-- The interval of reals that read back as `b`, in units of `2 ^ (exponent - 2)`:
its two ends and whether they belong to it. -/
structure Interval where
  low : Nat
  high : Nat
  closed : Bool

/-- The rounding interval of `b`. -/
def Binary.interval (b : Binary) : Interval :=
  { low := 4 * b.mantissa - (if b.narrowBelow then 1 else 2),
    high := 4 * b.mantissa + 2,
    closed := b.mantissa % 2 == 0 }

/-- Whether `d · 10 ^ k` reads back as `b`. -/
def Binary.admits (b : Binary) (d : Nat) (k : Int) : Bool :=
  let iv := b.interval
  let q := b.exponent - 2
  let aboveLow := match compareScaled iv.low q d k with
    | .lt => true
    | .eq => iv.closed
    | .gt => false
  let belowHigh := match compareScaled iv.high q d k with
    | .gt => true
    | .eq => iv.closed
    | .lt => false
  aboveLow && belowHigh

/-- Of `d · 10 ^ k` and `(d + 1) · 10 ^ k`, the one nearer to `b`; a tie goes to the even one. -/
def Binary.nearer (b : Binary) (d : Nat) (k : Int) : Nat :=
  match compareScaled (2 * b.mantissa) b.exponent (2 * d + 1) k with
  | .lt => d
  | .gt => d + 1
  | .eq => if d % 2 == 0 then d else d + 1

/-- The decimal of `n` significant digits chosen for `b`, if one reads back as `b`. -/
def Binary.onGrid (b : Binary) (lead : Int) (n : Nat) : Option (Nat × Int) :=
  let k := lead - n + 1
  let d := floorDiv b.mantissa b.exponent k
  match b.admits d k, b.admits (d + 1) k with
  | true, true => some (b.nearer d k, k)
  | true, false => some (d, k)
  | false, true => some (d + 1, k)
  | false, false => none

/-- Try the grids of `n, n + 1, …` significant digits, `fuel` of them. -/
def Binary.search (b : Binary) (lead : Int) : Nat → Nat → Option (Nat × Int)
  | 0, _ => none
  | fuel + 1, n =>
    match b.onGrid lead n with
    | some r => some r
    | none => b.search lead fuel (n + 1)

/-- Remove the trailing zeros of `d · 10 ^ k`, raising `k` to match. -/
def stripZeros : Nat → Nat → Int → Nat × Int
  | 0, d, k => (d, k)
  | fuel + 1, d, k =>
    if d != 0 && d % 10 == 0 then stripZeros fuel (d / 10) (k + 1) else (d, k)

/-- The shortest decimal `(d, k)`, meaning `d · 10 ^ k`, that reads back as `b`, with no
trailing zero in `d`. A zero mantissa gives `(0, 0)`. -/
def Binary.shortest (b : Binary) : Nat × Int :=
  if b.mantissa = 0 then (0, 0)
  else
    let lead := leadExponent b.mantissa b.exponent
    let (d, k) := (b.search lead 17 1).getD (floorDiv b.mantissa b.exponent (lead - 16), lead - 16)
    stripZeros 20 d k

/-- How a shortest decimal is laid out as text. -/
structure Layout where
  /-- Positional notation is used while the decimal point stands at most this many digits to
  the right of the first digit place. -/
  maxPoint : Int
  /-- Positional notation is used while the decimal point stands more than this many places to
  the left of the first digit place (so `0.0…0d`). -/
  minPoint : Int
  /-- Whether a positive exponent carries a `+`. -/
  plusSign : Bool

/-- The decimal digits of `d`, most significant first. -/
def digitText (d : Nat) : String :=
  String.ofList (Nat.toDigits 10 d)

/-- Write `d · 10 ^ k` (with `d > 0` and no trailing zero) under `layout`. With `kk` the
position of the decimal point counted from the first digit:
integers that fit are written with `.0`, numbers whose point falls inside the digits get it
there, small numbers are padded with leading zeros, and everything else is written
`d.ddd e±x`. -/
def Layout.write (layout : Layout) (d : Nat) (k : Int) : String :=
  let ds := digitText d
  let len : Int := ds.length
  let kk := len + k
  if 0 ≤ k ∧ kk ≤ layout.maxPoint then
    ds ++ "".pushn '0' k.toNat ++ ".0"
  else if 0 < kk ∧ kk ≤ layout.maxPoint then
    String.ofList (ds.toList.take kk.toNat) ++ "." ++ String.ofList (ds.toList.drop kk.toNat)
  else if layout.minPoint < kk ∧ kk ≤ 0 then
    "0." ++ "".pushn '0' (-kk).toNat ++ ds
  else
    let exp := kk - 1
    let expText :=
      if exp < 0 then "-" ++ digitText (-exp).toNat
      else (if layout.plusSign then "+" else "") ++ digitText exp.toNat
    let mant := match ds.toList with
      | [c] => String.singleton c
      | c :: rest => String.singleton c ++ "." ++ String.ofList rest
      | [] => ""
    mant ++ "e" ++ expText

/-- The text of a finite double: its sign, then its shortest decimal under `layout`; zero is
`0.0`. -/
def Layout.render (layout : Layout) (x : Float) : String :=
  let bits := x.toBits
  let sign := if bits >>> 63 == 1 then "-" else ""
  let b := Binary.ofBits bits
  if b.mantissa = 0 then sign ++ "0.0"
  else
    let (d, k) := b.shortest
    sign ++ layout.write d k

end Decimal
end DocClient
