/-!
# Doubles as messages show them

A double is shown by the fewest significant digits that read back as the same double. When two
digit strings of that length read back, the nearer one is shown, and on a tie the one ending in
an even digit.

The digits are written positionally when the decimal point falls from four places before the
first digit to sixteen places after it, with `.0` after a whole number: `0.00001`,
`2500000000000000.0`. Otherwise they are written as one digit, the others after a point, and
an exponent with its sign: `1e+16`, `-9.223372036854776e+18`, `1e-6`.

A decimal is read as the nearest double, ties to the even significand (`doubleOf`), or as a
fast reader reads it, scaling the significand's double by one power of ten (`scaledDouble`).
-/

namespace ResultLint
namespace Text

/-- A finite double as a sign and the integers `significand` and `exponent` with value
`significand * 2 ^ exponent`. `smallestGap` holds when the double below is nearer than the
double above: the significand is a power of two that is not the smallest. -/
structure Binary where
  negative : Bool
  significand : Nat
  exponent : Int
  smallestGap : Bool
  deriving Repr, Inhabited

/-- The parts of a double, or `none` for an infinity or NaN. -/
def Binary.ofFloat? (f : Float) : Option Binary :=
  let bits := f.toBits.toNat
  let negative := bits / Nat.pow 2 63 == 1
  let e : Nat := (bits / Nat.pow 2 52) % 2048
  let fraction : Nat := bits % Nat.pow 2 52
  if e == 2047 then none
  else if e == 0 then some ⟨negative, fraction, -1074, false⟩
  else some ⟨negative, fraction + Nat.pow 2 52, (e : Int) - 1075, fraction == 0 && e > 1⟩

/-- `a * 10 ^ i` compared with `b * 2 ^ j`, exactly. -/
def compareScaled (a : Nat) (i : Int) (b : Nat) (j : Int) : Ordering :=
  let lhs := a * Nat.pow 10 i.toNat * Nat.pow 2 (-j).toNat
  let rhs := b * Nat.pow 2 j.toNat * Nat.pow 10 (-i).toNat
  compare lhs rhs

/-- The number of decimal digits of a positive number. -/
def digitCount (n : Nat) : Nat := (Nat.toDigits 10 n).length

/-- The decimal exponent of a positive `m * 2 ^ q`: the `E` with `10 ^ E ≤ m * 2 ^ q < 10 ^ (E + 1)`. -/
def decimalExponent (m : Nat) (q : Int) : Int :=
  let whole := m * Nat.pow 2 q.toNat / Nat.pow 2 (-q).toNat
  if whole ≥ 1 then (digitCount whole : Int) - 1
  else
    match (List.range 400).find? (fun (t : Nat) => compareScaled 1 (-(Int.ofNat t + 1)) m q != .gt) with
    | some t => -(Int.ofNat t + 1)
    | none => -400

/-- The largest `D` with `D * 10 ^ k ≤ m * 2 ^ q`. -/
def floorDigits (m : Nat) (q : Int) (k : Int) : Nat :=
  m * Nat.pow 2 q.toNat * Nat.pow 10 (-k).toNat / (Nat.pow 2 (-q).toNat * Nat.pow 10 k.toNat)

/-- The shortest digits of a positive finite double and the power of ten of their last digit. -/
def Binary.shortest (b : Binary) : Nat × Int :=
  let m := b.significand
  let q := b.exponent - 2
  -- the double is `4m * 2^q`; the doubles that read back lie between `low` and `high`
  let value := 4 * m
  let high := 4 * m + 2
  let low := if b.smallestGap then 4 * m - 1 else 4 * m - 2
  let inclusive := m % 2 == 0
  let within (d : Nat) (k : Int) : Bool :=
    let aboveLow := match compareScaled d k low q with
      | .gt => true
      | .eq => inclusive
      | .lt => false
    let belowHigh := match compareScaled d k high q with
      | .lt => true
      | .eq => inclusive
      | .gt => false
    aboveLow && belowHigh
  let e := decimalExponent value q
  let attempt (n : Nat) : Option (Nat × Int) :=
    let k := e - (n : Int) + 1
    let d := floorDigits value q k
    let up := d + 1
    match within d k, within up k with
    | true, true =>
      match compare (value * Nat.pow 2 q.toNat * Nat.pow 10 (-k).toNat * 2)
          ((2 * d + 1) * Nat.pow 10 k.toNat * Nat.pow 2 (-q).toNat) with
      | .lt => some (d, k)
      | .gt => some (up, k)
      | .eq => some (if d % 2 == 0 then d else up, k)
    | true, false => some (d, k)
    | false, true => some (up, k)
    | false, false => none
  match (List.range 17).findSome? fun i => attempt (i + 1) with
  | some r => r
  | none => (floorDigits value q (e - 16), e - 16)

/-- Digits without their trailing zeros, the power of ten raised to match. -/
def trimZeros (d : Nat) (k : Int) : Nat × Int :=
  let zeros := ((Nat.toDigits 10 d).reverse.takeWhile (· == '0')).length
  if d == 0 then (0, k) else (d / Nat.pow 10 zeros, k + zeros)

/-- How a double is written in a message. -/
def doubleText (f : Float) : String :=
  match Binary.ofFloat? f with
  | none => if f.isNaN then "NaN" else if f < 0 then "-inf" else "inf"
  | some b =>
    let sign := if b.negative then "-" else ""
    if b.significand == 0 then sign ++ "0.0"
    else
      let (d, k) := b.shortest
      let (d, k) := trimZeros d k
      let digits := Nat.toDigits 10 d
      let count := digits.length
      -- the value is `0.digits * 10 ^ point`
      let point : Int := (count : Int) + k
      let body :=
        if point < -4 || point > 16 then
          let mantissa := match digits with
            | first :: rest => if rest.isEmpty then [first] else first :: '.' :: rest
            | [] => ['0']
          let exp := point - 1
          let expDigits := Nat.toDigits 10 exp.natAbs
          String.ofList mantissa ++ "e" ++ (if exp < 0 then "-" else "+") ++ String.ofList expDigits
        else if point ≤ 0 then
          "0." ++ String.ofList (List.replicate point.natAbs '0') ++ String.ofList digits
        else if point.toNat ≥ count then
          String.ofList digits ++ String.ofList (List.replicate (point.toNat - count) '0') ++ ".0"
        else
          String.ofList (digits.take point.toNat) ++ "." ++ String.ofList (digits.drop point.toNat)
      sign ++ body

/-- The bits of the positive infinity. -/
def infinityBits : UInt64 := 0x7FF0000000000000

/-- The double nearest the fraction `num / den`, ties to the even significand; zero when either
is zero, and infinity when the fraction lies beyond the largest double. The significand is the
quotient scaled into `[2 ^ 52, 2 ^ 53)`, or scaled by `2 ^ 1074` below the normal doubles, and
the remainder of that division decides the rounding. -/
def nearestRatio (num den : Nat) : Float :=
  if num == 0 || den == 0 then 0
  else
    let scaled (sh : Int) : Nat × Nat :=
      if sh ≥ 0 then (num * Nat.pow 2 sh.toNat, den) else (num, den * Nat.pow 2 (-sh).toNat)
    let quotient (sh : Int) : Nat := (scaled sh).1 / (scaled sh).2
    -- the quotient at `first` lies in `[2 ^ 51, 2 ^ 53)`
    let first : Int := 52 - ((Nat.log2 num : Int) - Nat.log2 den)
    let normal := if quotient first < Nat.pow 2 52 then first + 1 else first
    let e : Int := 52 - normal
    let sh := if e < -1022 then 1074 else normal
    let (n, d) := scaled sh
    let q := n / d
    let r := n - q * d
    let q := if 2 * r > d || (2 * r == d && q % 2 == 1) then q + 1 else q
    if e < -1022 then Float.ofBits q.toUInt64
    else
      let (q, e) := if q == Nat.pow 2 53 then (Nat.pow 2 52, e + 1) else (q, e)
      if e > 1023 then Float.ofBits infinityBits
      else Float.ofBits ((e + 1023).toNat * Nat.pow 2 52 + (q - Nat.pow 2 52)).toUInt64

/-- The double nearest `m * 10 ^ e`, negated when `negative`. -/
def doubleOf (negative : Bool) (m : Nat) (e : Int) : Float :=
  let magnitude : Float :=
    if m == 0 then 0
    else if (digitCount m : Int) + e > 311 then Float.ofBits infinityBits
    else if (digitCount m : Int) + e < -330 then 0
    else if e ≥ 0 then nearestRatio (m * Nat.pow 10 e.toNat) 1
    else nearestRatio m (Nat.pow 10 e.natAbs)
  if negative then -magnitude else magnitude

/-- The double nearest `10 ^ k`. -/
def powerOfTen (k : Nat) : Float := nearestRatio (Nat.pow 10 k) 1

/-- The largest power of ten a scaling takes in one step. -/
def largestPowerStep : Nat := 308

/-- A double made from a significand below `2 ^ 64` and a decimal exponent in few roundings,
as a fast number reader makes it: the significand's double is multiplied or divided by the
double nearest the power of ten, after dividing by `1e308` while the power is larger than that.
Each step rounds, so the result may miss the nearest double by a little. None when the value
is too large for a double. -/
def scaledDouble (significand : Nat) (exponent : Int) : Option Float :=
  go ((Int.toNat (-exponent)) / largestPowerStep + 1) significand.toUInt64.toFloat exponent
where
  /-- Scales `f` by `10 ^ e`, dividing by `1e308` at most `fuel` times first. -/
  go : Nat → Float → Int → Option Float
    | fuel, f, e =>
      if e.natAbs ≤ largestPowerStep then
        let p := powerOfTen e.natAbs
        if e ≥ 0 then
          let g := f * p
          if g.isInf then none else some g
        else some (f / p)
      else if f == 0 then some f
      else if e ≥ 0 then none
      else match fuel with
        | 0 => some (f / powerOfTen largestPowerStep)
        | fuel + 1 => go fuel (f / powerOfTen largestPowerStep) (e + largestPowerStep)

end Text
end ResultLint
