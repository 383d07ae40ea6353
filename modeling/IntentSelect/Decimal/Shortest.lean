/-!
# Shortest decimal text of a floating-point number

A finite double is `m · 2^q` for whole `m` and `q`.  The reals that round to it form an interval
around it, whose ends belong to it exactly if `m` is even.  Its shortest decimal text uses the
smallest number of significant digits with which some decimal lies in that interval, and of those
decimals the one nearest to the number.

The search is exact: for one digit, two digits and so on it tests the two neighbours of the number
among the decimals with that many digits.  Seventeen digits always suffice.
-/
namespace IntentSelect.Decimal

/-- A positive number `digits · 10^exponent`. -/
structure Numeral where
  digits : Nat
  exponent : Int
deriving DecidableEq, Repr

/-- A positive double in quarters of its last place: the number is `mid`, and the reals between
`low` and `high` round to it, all three times `2^scale`. -/
structure Interval where
  low : Nat
  mid : Nat
  high : Nat
  scale : Int
  closed : Bool

/-- The interval of the finite positive double with the given exponent field and fraction field. -/
def Interval.ofFields (exponent fraction : Nat) : Interval :=
  let m := if exponent = 0 then fraction else 0x10000000000000 + fraction
  let q : Int := if exponent = 0 then -1074 else (exponent : Int) - 1075
  let low := if fraction = 0 ∧ 1 < exponent then 4 * m - 1 else 4 * m - 2
  ⟨low, 4 * m, 4 * m + 2, q - 2, m % 2 == 0⟩

/-- `n · 2^e` divided by `10^k`, as numerator and denominator. -/
def scaledFraction (n : Nat) (e k : Int) : Nat × Nat :=
  (n * Nat.pow 2 e.toNat * Nat.pow 10 (-k).toNat, Nat.pow 2 (-e).toNat * Nat.pow 10 k.toNat)

/-- True if `d · 10^k` rounds to the number of the interval. -/
def Interval.holds (i : Interval) (d : Nat) (k : Int) : Bool :=
  let (lowNum, den) := scaledFraction i.low i.scale k
  let (highNum, _) := scaledFraction i.high i.scale k
  if i.closed then decide (lowNum ≤ d * den) && decide (d * den ≤ highNum)
  else decide (lowNum < d * den) && decide (d * den < highNum)

/-- The least `j` from the given one on, within `fuel` steps, with `1 ≤ 10^j · num / den`. -/
def leastScale (num den fuel j : Nat) : Nat :=
  match fuel with
  | 0 => j
  | n + 1 => if den ≤ num * Nat.pow 10 j then j else leastScale num den n (j + 1)

/-- The greatest `e` with `10^e ≤ num / den`, for the fractions that doubles are. -/
def decimalExponent (num den : Nat) : Int :=
  if den ≤ num then (Nat.toDigits 10 (num / den)).length - 1
  else -(leastScale num den 400 1 : Int)

/-- The best decimal with `n` significant digits in the interval, if there is one. -/
def Interval.candidate? (i : Interval) (top : Int) (n : Nat) : Option Numeral :=
  let k := top - n + 1
  let (num, den) := scaledFraction i.mid i.scale k
  let down := num / den
  let downHit := i.holds down k
  let upHit := i.holds (down + 1) k
  if downHit && upHit then
    let below := num - down * den
    if below * 2 < den ∨ (below * 2 = den ∧ down % 2 = 0) then some ⟨down, k⟩
    else some ⟨down + 1, k⟩
  else if downHit then some ⟨down, k⟩
  else if upHit then some ⟨down + 1, k⟩
  else none

/-- Drops zeros at the end of the digits. -/
def Numeral.reduce (fuel : Nat) (d : Numeral) : Numeral :=
  match fuel with
  | 0 => d
  | n + 1 => if d.digits % 10 = 0 then reduce n ⟨d.digits / 10, d.exponent + 1⟩ else d

/-- The shortest decimal of the interval. -/
def Interval.shortest (i : Interval) : Numeral :=
  let (num, den) := scaledFraction i.mid i.scale 0
  let top := decimalExponent num den
  match (List.range 17).findSome? fun n => i.candidate? top (n + 1) with
  | some d => d.reduce 20
  | none => ⟨0, 0⟩

/-! ## Layout -/

/-- How a decimal is written: positionally while its point lies after the first `largest` digits or
before at most `smallest` zeros, else with an exponent that carries its sign. -/
structure Layout where
  largest : Int
  smallest : Int

/-- Writes a decimal; a whole number written positionally ends in `.0`. -/
def Layout.write (l : Layout) (d : Numeral) : List Char :=
  let ds := Nat.toDigits 10 d.digits
  let point : Int := ds.length + d.exponent
  if 0 ≤ d.exponent ∧ point ≤ l.largest then
    ds ++ List.replicate d.exponent.toNat '0' ++ ['.', '0']
  else if 0 < point ∧ point ≤ l.largest then
    ds.take point.toNat ++ ['.'] ++ ds.drop point.toNat
  else if l.smallest < point ∧ point ≤ 0 then
    ['0', '.'] ++ List.replicate (-point).toNat '0' ++ ds
  else
    let e := point - 1
    let fraction := match ds.drop 1 with
      | [] => []
      | more => '.' :: more
    ds.take 1 ++ fraction ++ ['e', if e < 0 then '-' else '+'] ++ Nat.toDigits 10 e.natAbs

/-- The text of the double with the given bits, if it is finite. -/
def Layout.writeDouble? (l : Layout) (bits : UInt64) : Option (List Char) :=
  let n := bits.toNat
  let sign := if n / 0x8000000000000000 = 1 then ['-'] else []
  let exponent := n / 0x10000000000000 % 0x800
  let fraction := n % 0x10000000000000
  if exponent = 2047 then none
  else if exponent = 0 ∧ fraction = 0 then some (sign ++ ['0', '.', '0'])
  else some (sign ++ l.write (Interval.ofFields exponent fraction).shortest)

end IntentSelect.Decimal
