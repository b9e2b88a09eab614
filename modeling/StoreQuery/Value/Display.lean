import StoreQuery.Value
import StoreQuery.Text

/-!
# The display form of values

`Value.display` is the short text by which a value appears in messages. It tells the kinds apart
by their marks (`30` and `30L`), and shows of binary data and objects only the size.

Every finite double-precision number is the exact value of a decimal, but most need hundreds of
digits. `Decimal.shortest` takes the fewest digits that still read back to the same number.

* `Decimal.exact` writes `m * 2 ^ q` out in full;
* `Decimal.readsBack` says that a decimal lies among the reals that round to a number;
* `Decimal.shortest` tries the grids of one digit, two digits and so on, and of each grid only the
  two neighbours of the number: if a point of the grid reads back, one of the neighbours does.
-/

namespace StoreQuery

/-! ### Shortest decimals -/

/-- The number `digits * 10 ^ exp`. -/
structure Decimal where
  /-- The decimal digits as one natural. -/
  digits : Nat
  /-- The exponent of the last digit. -/
  exp : Int
deriving DecidableEq

namespace Decimal

open Binary64 (Magnitude)

/-- All digits of a number. -/
def exact (x : Magnitude) : Decimal :=
  if x.q < 0 then ⟨x.m * Nat.pow 5 (-x.q).toNat, x.q⟩ else ⟨x.m <<< x.q.toNat, 0⟩

/-- The exponent of the first power of ten above a number that is not zero. -/
def scale (x : Magnitude) : Int :=
  let d := exact x
  (Nat.toDigits 10 d.digits).length + d.exp

/-- Quarters of the last bit of `x`, counted in steps of `10 ^ k`, are `steps / parts`. -/
def step (x : Magnitude) (k : Int) : Nat × Nat :=
  (Nat.pow 10 (-k).toNat <<< (x.q - 2).toNat, Nat.pow 10 k.toNat <<< (2 - x.q).toNat)

/-- The decimal lies among the reals that round to `x`: between the midpoints to the neighbours
of `x`, which belong to `x` when its significand is even. -/
def readsBack (x : Magnitude) (d : Decimal) : Bool :=
  let (steps, parts) := step x d.exp
  let point := d.digits * parts
  let low := (if x.narrowBelow then 4 * x.m - 1 else 4 * x.m - 2) * steps
  let high := (4 * x.m + 2) * steps
  if x.m % 2 == 0 then low ≤ point && point ≤ high else low < point && point < high

/-- The multiple of `10 ^ k` that stands for `x`, if one reads back: the nearer of the two
neighbours, and the upper one when they are equally near. -/
def onGrid (x : Magnitude) (k : Int) : Option Decimal :=
  let (steps, parts) := step x k
  let value := 4 * x.m * steps
  let below : Decimal := ⟨value / parts, k⟩
  let above : Decimal := ⟨value / parts + 1, k⟩
  match readsBack x below, readsBack x above with
  | true, true => if 2 * (value % parts) < parts then some below else some above
  | true, false => some below
  | false, true => some above
  | false, false => none

/-- Move trailing zeros into the exponent; zero has none. -/
def trim (d : Decimal) : Decimal :=
  if d.digits = 0 then ⟨0, 0⟩
  else if d.digits % 10 = 0 then trim ⟨d.digits / 10, d.exp + 1⟩
  else d
termination_by d.digits
decreasing_by omega

/-- The decimal with the fewest digits that reads back to `x`, and of those the nearest; all
digits if none of at most seventeen digits does. -/
def shortest (x : Magnitude) : Decimal :=
  let grid (n : Nat) := onGrid x (scale x - 1 - n)
  trim (((List.range 17).findSome? grid).getD (exact x))

/-- The decimal written without an exponent. -/
def plain (d : Decimal) : String :=
  let digits := Nat.toDigits 10 d.digits
  let zeros (n : Nat) := List.replicate n '0'
  if 0 ≤ d.exp then String.ofList (digits ++ zeros d.exp.toNat)
  else
    let places := (-d.exp).toNat
    let padded := zeros (places + 1 - digits.length) ++ digits
    let whole := padded.length - places
    String.ofList (padded.take whole ++ '.' :: padded.drop whole)

end Decimal

/-! ### Values -/

/-- A number without an exponent: the shortest decimal that reads back. The zeros keep their
sign. -/
def Binary64.display (x : Binary64) : String :=
  if x.isNaN then "NaN"
  else
    let unsigned := match x.magnitude? with
      | some m => (Decimal.shortest m).plain
      | none => "inf"
    if x.isNegative then "-" ++ unsigned else unsigned

/-- The short text of a value. -/
def Value.display : Value → String
  | .null => "null"
  | .bool b => if b then "true" else "false"
  | .int n => toString n.toInt
  | .long n => toString n.toInt ++ "L"
  | .double x => x.display
  | .string s => Text.quote s
  | .bytes b => "<" ++ toString b.length ++ " bytes>"
  | .dateTime n => "@" ++ toString n.toInt
  | .object fields => "\x7b" ++ toString fields.length ++ " fields\x7d"

end StoreQuery
