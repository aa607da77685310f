/-! Non-negative binary floating-point numbers of 64 bits, in exact arithmetic. -/

namespace Waymark

/-- The number `mantissa · 2 ^ exponent`. A number from `Binary64.ofRatio?` has a mantissa of 53
bits, or of fewer if the exponent is the least there is. -/
structure Binary64 where
  mantissa : Nat
  exponent : Int
deriving DecidableEq, Repr

namespace Binary64

/-- The exponent of the numbers next to zero. -/
def minExponent : Int := -1074

/-- The exponent of the largest numbers. -/
def maxExponent : Int := 971

/-- The least mantissa of 53 bits. -/
def leastFull : Nat := Nat.pow 2 52

/-- The natural number `2 ^ e`, or one if `e` is negative. -/
def pow2 (e : Int) : Nat := Nat.pow 2 e.toNat

/-- The natural number `10 ^ k`, or one if `k` is negative. -/
def pow10 (k : Int) : Nat := Nat.pow 10 k.toNat

/-- A number as a quotient. -/
def num (x : Binary64) : Nat := x.mantissa * pow2 x.exponent

/-- The denominator that goes with `num`. -/
def den (x : Binary64) : Nat := pow2 (-x.exponent)

/-- Zero. -/
def zero : Binary64 := ⟨0, minExponent⟩

/-- The whole number nearest to `n / d`; a half goes to the even neighbour. -/
def divNearest (n d : Nat) : Nat :=
  let q := n / d
  let r := 2 * (n % d)
  if r < d ∨ (r = d ∧ q % 2 = 0) then q else q + 1

/-- The mantissa of `n / d` for a given exponent. -/
def mantissaAt (n d : Nat) (e : Int) : Nat := divNearest (n * pow2 (-e)) (d * pow2 e)

/-- The number nearest to `n / d`, if it is finite. The first exponent tried is right or one too
small. -/
def ofRatio? (n d : Nat) : Option Binary64 :=
  if n = 0 then some zero
  else
    let e := max ((n.log2 : Int) - d.log2 - 53) minExponent
    let m := mantissaAt n d e
    let x : Binary64 := if m < 2 * leastFull then ⟨m, e⟩ else ⟨mantissaAt n d (e + 1), e + 1⟩
    if x.mantissa = 2 * leastFull then
      if x.exponent < maxExponent then some ⟨leastFull, x.exponent + 1⟩ else none
    else if x.exponent ≤ maxExponent then some x else none

/-- The number nearest to a power of ten; the ones in use are finite. -/
def tenTo (k : Nat) : Binary64 := (ofRatio? (pow10 k) 1).getD zero

/-- The rounded product, if it is finite. -/
def mul? (x y : Binary64) : Option Binary64 := ofRatio? (x.num * y.num) (x.den * y.den)

/-- The rounded quotient by a number above zero, if it is finite. -/
def div? (x y : Binary64) : Option Binary64 := ofRatio? (x.num * y.den) (x.den * y.num)

/-- Scales `x` by a power of ten that may be larger than the largest number, 308 digits at a
time; three steps down lead from any number of 64 bits to zero. -/
def scaleFrom : (steps : Nat) → Binary64 → Int → Option Binary64
  | 0, _, _ => some zero
  | steps + 1, x, k =>
    if k.natAbs ≤ 308 then
      if 0 ≤ k then x.mul? (tenTo k.natAbs) else x.div? (tenTo k.natAbs)
    else if x.mantissa = 0 then some x
    else if 0 ≤ k then none
    else
      match x.div? (tenTo 308) with
      | none => none
      | some y => scaleFrom steps y (k + 308)

/-- The number for `digits · 10 ^ k`, if it is finite: the digits and the power of ten are
rounded before they are put together. -/
def ofDecimal? (digits : Nat) (k : Int) : Option Binary64 :=
  match ofRatio? digits 1 with
  | none => none
  | some x => scaleFrom 4 x k

/-- A decimal number `digits · 10 ^ power`. -/
structure Decimal where
  digits : Nat
  power : Int
deriving DecidableEq, Repr

/-- Whether a decimal is read as `x`: it lies between the middles to the neighbours of `x`, whose
ends count if the mantissa is even. All is scaled by four, since the gap below a power of two is
half as wide. -/
def reads (x : Binary64) (d : Decimal) : Bool :=
  let e := x.exponent - 2
  let value := d.digits * pow10 d.power * pow2 (-e)
  let unit := pow10 (-d.power) * pow2 e
  let low := 4 * x.mantissa - (if x.mantissa = leastFull ∧ minExponent < x.exponent then 1 else 2)
  let high := 4 * x.mantissa + 2
  if x.mantissa % 2 = 0 then low * unit ≤ value && value ≤ high * unit
  else low * unit < value && value < high * unit

/-- The multiple of `10 ^ power` nearest to `x` among those that are read as `x`. -/
def decimalAt? (x : Binary64) (power : Int) : Option Decimal :=
  let n := x.num * pow10 (-power)
  let d := x.den * pow10 power
  let near := divNearest n d
  let other := if near = n / d then near + 1 else n / d
  if x.reads ⟨near, power⟩ then some ⟨near, power⟩
  else if x.reads ⟨other, power⟩ then some ⟨other, power⟩
  else none

/-- The first decimal found from a power of ten downwards. -/
def shortestFrom (x : Binary64) : (steps : Nat) → (power : Int) → Decimal
  | 0, power => ⟨0, power⟩
  | steps + 1, power =>
    match x.decimalAt? power with
    | some d => d
    | none => x.shortestFrom steps (power - 1)

/-- The shortest decimal that is read as `x`: the coarser the grid of a decimal, the fewer its
digits. -/
def shortest (x : Binary64) : Decimal :=
  if x.mantissa = 0 then ⟨0, 0⟩ else x.shortestFrom 640 309

/-- The digits of a number in base ten. -/
def digitText (n : Nat) : List Char := Nat.toDigits 10 n

/-- The written form of a decimal: with a point and at least one digit on both sides of it up to
sixteen places before and five after it, else with an exponent and its sign. -/
def Decimal.text (d : Decimal) : List Char :=
  let digits := digitText d.digits
  let point : Int := digits.length + d.power
  if 0 ≤ d.power ∧ point ≤ 16 then
    digits ++ List.replicate d.power.toNat '0' ++ ['.', '0']
  else if 0 < point ∧ point ≤ 16 then
    digits.take point.toNat ++ '.' :: digits.drop point.toNat
  else if -5 < point ∧ point ≤ 0 then
    '0' :: '.' :: List.replicate (-point).toNat '0' ++ digits
  else
    let e := point - 1
    let exponent := (if e < 0 then '-' else '+') :: digitText e.natAbs
    match digits with
    | [d] => d :: 'e' :: exponent
    | ds => ds.take 1 ++ '.' :: ds.drop 1 ++ 'e' :: exponent

/-- The written form of a number. -/
def text (x : Binary64) : List Char := x.shortest.text

end Binary64

end Waymark
