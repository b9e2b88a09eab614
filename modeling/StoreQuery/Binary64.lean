/-!
# Floating-point numbers as bit patterns

A `Binary64` is the 64-bit pattern of a double-precision number, so that a NaN keeps its payload
and two patterns can be told apart even where the numbers compare equal.

* `Binary64.numEq` is equality of numbers: NaN differs from itself and the two zeros are equal;
* `Binary64.ofRatio` rounds a quotient of naturals to the nearest pattern, ties to even;
* `Binary64.magnitude?` is the exact value `m * 2 ^ q` of a finite pattern, without its sign.
-/

namespace StoreQuery

/-- The bit pattern of a double-precision number. -/
structure Binary64 where
  /-- Sign, eleven bits of exponent and fifty-two bits of fraction, most significant first. -/
  bits : UInt64
deriving DecidableEq

namespace Binary64

/-- The biased exponent. -/
def exponent (x : Binary64) : Nat := ((x.bits >>> 52) &&& 0x7FF).toNat

/-- The fraction bits. -/
def fraction (x : Binary64) : Nat := (x.bits &&& 0xFFFFFFFFFFFFF).toNat

/-- The sign bit is set. -/
def isNegative (x : Binary64) : Bool := x.bits >>> 63 == 1

/-- The pattern is that of no number. -/
def isNaN (x : Binary64) : Bool := x.exponent == 0x7FF && x.fraction != 0

/-- The pattern is that of a real number. -/
def isFinite (x : Binary64) : Bool := x.exponent != 0x7FF

/-- The pattern is that of one of the two zeros. -/
def isZero (x : Binary64) : Bool := x.exponent == 0 && x.fraction == 0

/-- The two patterns stand for the same number. -/
def numEq (x y : Binary64) : Bool := !x.isNaN && !y.isNaN && (x == y || x.isZero && y.isZero)

/-- The positive zero. -/
def zero : Binary64 := ⟨0⟩

/-- The number of the other sign. -/
def negate (x : Binary64) : Binary64 := ⟨x.bits ^^^ 0x8000000000000000⟩

/-- A finite number without its sign is `m * 2 ^ q`. -/
structure Magnitude where
  /-- The significand. -/
  m : Nat
  /-- The exponent of the last bit of the significand. -/
  q : Int
  /-- The gap to the number below is half the gap to the number above. -/
  narrowBelow : Bool

/-- The exact value of a finite pattern. -/
def magnitude? (x : Binary64) : Option Magnitude :=
  if !x.isFinite then none
  else if x.exponent == 0 then some ⟨x.fraction, -1074, false⟩
  else some ⟨1 <<< 52 + x.fraction, (x.exponent : Int) - 1075, x.fraction == 0 && x.exponent > 1⟩

/-! ### Rounding -/

/-- The quotient `num / den` rounded to the nearest natural, a half to the even neighbour. -/
def roundHalfEven (num den : Nat) : Nat :=
  let low := num / den
  let twice := 2 * (num % den)
  if twice < den || twice == den && low % 2 == 0 then low else low + 1

/-- The exponent of the last bit that a number near `num / den` keeps: fifty-three bits of it
lie above, unless the smallest exponent comes first. -/
def lastBitExponent (num den : Nat) : Int :=
  let estimate := (Nat.log2 num : Int) - Nat.log2 den
  let q := estimate - 52
  let q := if num <<< (-q).toNat < den <<< (q.toNat + 52) then q - 1 else q
  max q (-1074)

/-- The number nearest to `num / den`, ties to the even significand; `none` when it is too
large to be finite. The denominator is positive. -/
def ofRatio (num den : Nat) : Option Binary64 :=
  if num == 0 then some zero
  else
    let q := lastBitExponent num den
    let m := roundHalfEven (num <<< (-q).toNat) (den <<< q.toNat)
    -- A significand below `2 ^ 52` has the smallest exponent; rounding up to `2 ^ 53` carries
    -- into the exponent field by itself.
    let field := (q + 1074).toNat <<< 52 + m
    if field < 0x7FF <<< 52 then some ⟨field.toUInt64⟩ else none

/-- The number nearest to a natural. -/
def ofNat (n : Nat) : Option Binary64 := ofRatio n 1

/-- The number nearest to `x * y`, for finite numbers. -/
def mul (x y : Magnitude) : Option Binary64 :=
  let q := x.q + y.q
  ofRatio ((x.m * y.m) <<< q.toNat) (1 <<< (-q).toNat)

/-- The number nearest to `x / y`, for finite numbers of which the second is not zero. -/
def div (x y : Magnitude) : Option Binary64 :=
  let q := x.q - y.q
  ofRatio (x.m <<< q.toNat) (y.m <<< (-q).toNat)

end Binary64

end StoreQuery
