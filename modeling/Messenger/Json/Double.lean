/-
Double-precision numbers as JSON numerals.

A double is given by its bits.  Reading takes the leading digits that fit into 64 bits as one
double and the power of ten as another, and multiplies or divides the two; digits that do not
fit count only by their place.  Writing takes the fewest digits that read back to the same
double, and of those the nearest.
-/
import Messenger.Json.Numeral

namespace Messenger.Double

/-- The greatest power of ten that is a double. -/
def maxPower : Nat := 308

def power (n : Nat) : Float := Float.ofScientific 1 false n

/-- Takes one more digit into the leading digits, unless they would outgrow 64 bits. -/
def takeDigit? (leading digit : Nat) : Option Nat :=
  if 10 * leading + digit < UInt64.size then some (10 * leading + digit) else none

/-- The leading digits of the whole part, and how many digits were left out. -/
def leadingWhole (leading : Nat) : List Nat → Nat × Nat
  | [] => (leading, 0)
  | digit :: rest =>
    match takeDigit? leading digit with
    | some leading => leadingWhole leading rest
    | none => (leading, rest.length + 1)

/-- The leading digits after those of the fraction, and how many of these were taken. -/
def leadingFraction (leading taken : Nat) : List Nat → Nat × Nat
  | [] => (leading, taken)
  | digit :: rest =>
    match takeDigit? leading digit with
    | some leading => leadingFraction leading (taken + 1) rest
    | none => (leading, taken)

/-- Divides by the power of ten, in steps of at most the greatest one. -/
def divide (f : Float) (n : Nat) : Float :=
  if n ≤ maxPower then f / power n
  else if f == 0 then f
  else divide (f / power maxPower) (n - maxPower)
termination_by n
decreasing_by simp only [maxPower] at *; omega

/-- The double nearest to leading digits times a power of ten, up to the two roundings; `none`
when it is too large. -/
def scale? (leading : Nat) (exponent : Int) : Option Float :=
  let f := leading.toUInt64.toFloat
  if exponent < 0 then some (divide f exponent.natAbs)
  else if exponent ≤ maxPower then
    let f := f * power exponent.toNat
    if f.isInf then none else some f
  else if f == 0 then some f
  else none

/-- A written exponent beyond this bound is not added to the rest but decides alone. -/
def exponentBound : Nat := (1 <<< 31) - 1

/-- The size of the double that a numeral writes. -/
def magnitude? (n : Numeral) : Option Float :=
  let (leading, dropped) := leadingWhole 0 n.whole
  let (leading, taken) := leadingFraction leading 0 n.fraction
  let written := n.exponent.getD 0
  if written.natAbs ≤ exponentBound then scale? leading (dropped - taken + written)
  else if leading = 0 || written < 0 then some 0
  else none

def ofNumeral? (n : Numeral) : Option UInt64 :=
  (magnitude? n).map fun f => (if n.negative then -f else f).toBits

/-! ## Writing -/

/-- A finite double without its sign, as a whole number times a power of two, with the distances
to the ends of what rounds to it, in quarters of the unit. -/
structure Parts where
  mantissa : Nat
  exponent : Int
  lowGap : Nat

/-- Splits the bits; `none` for infinities and what is no number. -/
def parts? (bits : UInt64) : Option Parts :=
  let fraction := (bits &&& 0xFFFFFFFFFFFFF).toNat
  let scale := ((bits >>> 52) &&& 0x7FF).toNat
  if scale = 0x7FF then none
  else if scale = 0 then some ⟨fraction, -1074, 2⟩
  else some ⟨fraction + (1 <<< 52), scale - 1075, if fraction = 0 && scale > 1 then 1 else 2⟩

structure Ratio where
  num : Nat
  den : Nat

/-- A whole number times a power of two. -/
def Ratio.ofBinary (m : Nat) (e : Int) : Ratio :=
  if e < 0 then ⟨m, 1 <<< e.natAbs⟩ else ⟨m <<< e.natAbs, 1⟩

/-- The fraction times a power of ten. -/
def Ratio.shift (r : Ratio) (k : Int) : Ratio :=
  if k < 0 then ⟨r.num, r.den * Nat.pow 10 k.natAbs⟩ else ⟨r.num * Nat.pow 10 k.natAbs, r.den⟩

/-- Whether `n` steps of the grid with step `10 ^ k` round to the double. -/
def roundsTo (p : Parts) (n : Nat) (k : Int) : Bool :=
  let low := (Ratio.ofBinary (4 * p.mantissa - p.lowGap) (p.exponent - 2)).shift (-k)
  let high := (Ratio.ofBinary (4 * p.mantissa + 2) (p.exponent - 2)).shift (-k)
  if p.mantissa % 2 = 0 then low.num ≤ n * low.den && n * high.den ≤ high.num
  else low.num < n * low.den && n * high.den < high.num

/-- The neighbour of the double on the grid with step `10 ^ k` that reads back, if one does; of
two the nearer, and the even one in the middle. -/
def onGrid? (p : Parts) (k : Int) : Option Nat :=
  let v := (Ratio.ofBinary p.mantissa p.exponent).shift (-k)
  let below := v.num / v.den
  let rest := 2 * (v.num % v.den)
  match roundsTo p below k && below > 0, roundsTo p (below + 1) k with
  | true, true =>
    if rest < v.den || (rest = v.den && below % 2 = 0) then some below else some (below + 1)
  | true, false => some below
  | false, true => some (below + 1)
  | false, false => none

/-- The number of decimal digits before the point, negative when zeros follow it. -/
def decimalExponent (p : Parts) : Int :=
  let v := Ratio.ofBinary p.mantissa p.exponent
  if v.num ≥ v.den then (Nat.toDigits 10 (v.num / v.den)).length
  else 1 - (Nat.toDigits 10 ((v.den - 1) / v.num)).length

/-- The first of several counts of digits that suffices, with the power of ten of the last. -/
def shortestFrom (p : Parts) (places : Int) : Nat → Nat → Nat × Int
  | 0, count => ((onGrid? p (places - count)).getD p.mantissa, places - count)
  | more + 1, count =>
    match onGrid? p (places - count) with
    | some n => (n, places - count)
    | none => shortestFrom p places more (count + 1)

def dropZeros (n : Nat) (k : Int) : Nat × Int :=
  if h : n ≠ 0 ∧ n % 10 = 0 then dropZeros (n / 10) (k + 1) else (n, k)
termination_by n
decreasing_by omega

/-- The fewest digits that read back, as a whole number and a power of ten. -/
def shortest (p : Parts) : Nat × Int :=
  let (n, k) := shortestFrom p (decimalExponent p) 16 1
  dropZeros n k

/-- Where the decimal point goes: plain for numbers of moderate size, else after the first
digit with a power of ten. -/
def layOut (negative : Bool) (digits : List Nat) (k : Int) : Numeral :=
  let places : Int := digits.length + k
  if 0 ≤ k && places ≤ 16 then ⟨negative, digits ++ List.replicate k.toNat 0, [0], none⟩
  else if 0 < places && places ≤ 16 then
    ⟨negative, digits.take places.toNat, digits.drop places.toNat, none⟩
  else if -5 < places && places ≤ 0 then
    ⟨negative, [0], List.replicate places.natAbs 0 ++ digits, none⟩
  else ⟨negative, digits.take 1, digits.drop 1, some (places - 1)⟩

/-- The numeral of a double; `none` when it is not finite. -/
def toNumeral? (bits : UInt64) : Option Numeral :=
  (parts? bits).map fun p =>
    let negative := bits >>> 63 = 1
    if p.mantissa = 0 then ⟨negative, [0], [0], none⟩
    else
      let (n, k) := shortest p
      layOut negative (Numeral.digitsOf n) k

end Messenger.Double
