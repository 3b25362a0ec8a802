import ScenarioCompiler.Number.Power

namespace ScenarioCompiler

/-- A binary64 number in exact integers: a finite one is `±significand · 2 ^ exponent`, where the
significand has 53 bits or the exponent is the least one. -/
inductive Binary64 where
  | nan
  | infinite (negative : Bool)
  | finite (negative : Bool) (significand : Nat) (exponent : Int)
  deriving DecidableEq, Repr

namespace Binary64

def leastExponent : Int := -1074

def zero (negative : Bool) : Binary64 := .finite negative 0 leastExponent

/-- The quotient rounded to the nearest number, and to the even one of two. -/
def roundDiv (num den : Nat) : Nat :=
  let q := num / den
  let r := num % den
  if den < 2 * r || (2 * r == den && q % 2 == 1) then q + 1 else q

/-- The ratio `num / den` in units of `2 ^ exponent`. -/
def scaled (num den : Nat) (exponent : Int) : Nat × Nat :=
  if 0 ≤ exponent then (num, den * powerOfTwo exponent.toNat)
  else (num * powerOfTwo (-exponent).toNat, den)

/-- The number nearest to `num / den`. -/
def ofRatio (negative : Bool) (num den : Nat) : Binary64 :=
  if num = 0 then zero negative
  else
    let guess : Int := (num.log2 : Int) - den.log2 - 52
    let (n, d) := scaled num den guess
    let exponent := max (if n / d < powerOfTwo 52 then guess - 1 else guess) leastExponent
    let (n, d) := scaled num den exponent
    let significand := roundDiv n d
    let (significand, exponent) :=
      if significand = powerOfTwo 53 then (powerOfTwo 52, exponent + 1) else (significand, exponent)
    if 971 < exponent then .infinite negative else .finite negative significand exponent

/-- The number of decimal digits of `n`. -/
def digitCount (n : Nat) : Nat := (Nat.toDigits 10 n).length

/-- The number nearest to `digits · 10 ^ exponent`. -/
def ofDecimal (negative : Bool) (digits : Nat) (exponent : Int) : Binary64 :=
  let magnitude : Int := digitCount digits + exponent
  if digits = 0 || magnitude < -330 then zero negative
  else if 310 < magnitude then .infinite negative
  else if 0 ≤ exponent then ofRatio negative (digits * powerOfTen exponent.toNat) 1
  else ofRatio negative digits (powerOfTen (-exponent).toNat)

/-- The magnitude of a finite number as a ratio. -/
def ratio (significand : Nat) (exponent : Int) : Nat × Nat :=
  if 0 ≤ exponent then (significand * powerOfTwo exponent.toNat, 1)
  else (significand, powerOfTwo (-exponent).toNat)

/-- The number nearest to `significand · 2 ^ exponent`. -/
def ofScaled (negative : Bool) (significand : Nat) (exponent : Int) : Binary64 :=
  let (num, den) := ratio significand exponent
  ofRatio negative num den

def neg : Binary64 → Binary64
  | .nan => .nan
  | .infinite negative => .infinite !negative
  | .finite negative significand exponent => .finite (!negative) significand exponent

/-- The product, rounded once. -/
def mul : Binary64 → Binary64 → Binary64
  | .nan, _ | _, .nan => .nan
  | .infinite n, .infinite n' => .infinite (n != n')
  | .infinite n, .finite n' m _ | .finite n' m _, .infinite n =>
    if m = 0 then .nan else .infinite (n != n')
  | .finite n m e, .finite n' m' e' => ofScaled (n != n') (m * m') (e + e')

/-- The sum, rounded once; a sum of zero is negative only if both numbers are. -/
def add : Binary64 → Binary64 → Binary64
  | .nan, _ | _, .nan => .nan
  | .infinite n, .infinite n' => if n = n' then .infinite n else .nan
  | .infinite n, .finite .. | .finite .., .infinite n => .infinite n
  | .finite n m e, .finite n' m' e' =>
    let least := min e e'
    let signed (negative : Bool) (m : Nat) (e : Int) : Int :=
      let magnitude : Int := m * powerOfTwo (e - least).toNat
      if negative then -magnitude else magnitude
    let sum := signed n m e + signed n' m' e'
    ofScaled (if sum = 0 then n && n' else sum < 0) sum.natAbs least

/-- The integer that the number is, if it is one. -/
def toInt? : Binary64 → Option Int
  | .finite negative significand exponent =>
    let (num, den) := ratio significand exponent
    if num % den = 0 then some (if negative then -(num / den : Nat) else (num / den : Nat))
    else none
  | _ => none

/-- Equality of values: both zeros are equal, and NaN differs from itself. -/
def sameValue : Binary64 → Binary64 → Bool
  | .nan, _ => false
  | .finite n m e, .finite n' m' e' => (m == 0 && m' == 0) || (n == n' && m == m' && e == e')
  | x, y => x == y

/-- The place of the decimal point of `num / den`: `10 ^ (place - 1) ≤ num / den < 10 ^ place`. -/
def decimalPlace (num den : Nat) : Int :=
  if den ≤ num then digitCount (num / den)
  else
    let d := digitCount (den / num)
    if den ≤ num * powerOfTen (d - 1) then 2 - d else 1 - d

/-- The decimal of `count` digits nearest to the number, and the even one of two, among those that
read back as it. -/
def decimalOf? (negative : Bool) (significand : Nat) (exponent : Int) (count : Nat) :
    Option (Nat × Int) :=
  let (num, den) := ratio significand exponent
  let scale : Int := count - decimalPlace num den
  let (num, den) := if 0 ≤ scale then (num * powerOfTen scale.toNat, den)
    else (num, den * powerOfTen (-scale).toNat)
  let low := num / den
  let readsBack (digits : Nat) : Bool :=
    ofDecimal negative digits (-scale) == .finite negative significand exponent
  let near := roundDiv num den
  let far := if near = low then low + 1 else low
  if readsBack near then some (near, -scale)
  else if readsBack far then some (far, -scale)
  else none

/-- The fewest digits that read back as the number, with the power of ten of the last one. -/
def shortest (negative : Bool) (significand : Nat) (exponent : Int) : Nat × Int :=
  ((List.range 17).findSome? fun k =>
    decimalOf? negative significand exponent (k + 1)).getD (0, 0)

/-- Drops the zeros at the end of the digits; the power of ten grows by one for each. -/
def trimZeros (digits : List Char) (exponent : Int) : List Char × Int :=
  let zeros := (digits.reverse.takeWhile (· == '0')).length
  (digits.take (digits.length - zeros), exponent + zeros)

/-- The spellings of what is not a finite number. -/
structure SpecialNames where
  nan : String
  infinity : String

/-- Positional notation for numbers from `10 ^ -4` to below `10 ^ 16`, with a fraction in any
case; else scientific notation with at least two digits in the exponent. -/
def finiteText (significand : Nat) (exponent : Int) : List Char :=
  if significand = 0 then ['0', '.', '0']
  else
    let (value, power) := shortest false significand exponent
    let (digits, power) := trimZeros (Nat.toDigits 10 value) power
    let place : Int := digits.length + power
    if place ≤ -4 || 16 < place then
      let shown := (place - 1).natAbs
      digits.take 1 ++ (if digits.length = 1 then [] else '.' :: digits.drop 1) ++
        ['e', if place < 1 then '-' else '+'] ++
        (if shown < 10 then '0' :: Nat.toDigits 10 shown else Nat.toDigits 10 shown)
    else if place ≤ 0 then
      '0' :: '.' :: List.replicate (-place).toNat '0' ++ digits
    else if place.toNat < digits.length then
      digits.take place.toNat ++ '.' :: digits.drop place.toNat
    else digits ++ List.replicate (place.toNat - digits.length) '0' ++ ['.', '0']

def toText (names : SpecialNames) : Binary64 → String
  | .nan => names.nan
  | .infinite negative => (if negative then "-" else "") ++ names.infinity
  | .finite negative significand exponent =>
    (if negative then "-" else "") ++ String.ofList (finiteText significand exponent)

end Binary64

end ScenarioCompiler
