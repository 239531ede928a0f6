import SqlStatement.Double

/-! # Shortest decimals

The decimal with the fewest digits among those that read back as a given double, and of these the
nearest to it. A double stands for all reals that round to it: half of the way to each neighbour,
the ends included where its significand is even.
-/

namespace SqlStatement.Decimal

/-- A positive binary number `significand * 2 ^ exponent`, and whether the double below it is only
half as far away as the one above. -/
structure Binary where
  significand : Nat
  exponent : Int
  narrowBelow : Bool

structure Scientific where
  digits : Nat
  exponent : Int
deriving DecidableEq, Repr

namespace Binary

def ofDouble (x : Double) : Binary :=
  if x.exponentBits = 0 then ⟨x.fraction, -1074, false⟩
  else ⟨(1 <<< 52) + x.fraction, (x.exponentBits : Int) - 1075,
    x.fraction == 0 && 1 < x.exponentBits⟩

/-- Quarters of a unit in the last place, on a scale on which `10 ^ e` is `unit e`. -/
def scaled (b : Binary) (e : Int) (quarters : Nat) : Nat :=
  (quarters <<< (b.exponent - 2).toNat) * Nat.pow 10 (-e).toNat

def unit (b : Binary) (e : Int) : Nat := (1 <<< (2 - b.exponent).toNat) * Nat.pow 10 e.toNat

/-- The decimal reads back as the number. -/
def admits (b : Binary) (d : Scientific) : Bool :=
  let point := d.digits * b.unit d.exponent
  let low := b.scaled d.exponent (4 * b.significand - if b.narrowBelow then 1 else 2)
  let high := b.scaled d.exponent (4 * b.significand + 2)
  if b.significand % 2 == 0 then low ≤ point && point ≤ high else low < point && point < high

def isBelow (b : Binary) (e : Int) : Bool := b.scaled e (4 * b.significand) < b.unit e

/-- The least `e` with the number below `10 ^ e`; every double lies within the range searched. -/
def magnitude (b : Binary) : Int :=
  (((List.range 640).map fun (i : Nat) => (i : Int) - 324).find? b.isBelow).getD 316

/-- The decimal in multiples of `10 ^ e` that is nearest among those that read back; of two at one
distance, the larger. -/
def onGrid? (b : Binary) (e : Int) : Option Scientific :=
  let value := b.scaled e (4 * b.significand)
  let down : Scientific := ⟨value / b.unit e, e⟩
  let up : Scientific := ⟨down.digits + 1, e⟩
  match b.admits down, b.admits up with
  | true, true => some (if 2 * value < (2 * down.digits + 1) * b.unit e then down else up)
  | true, false => some down
  | false, true => some up
  | false, false => none

/-- The coarsest grid that holds a decimal which reads back; seventeen digits always do. -/
def shortest (b : Binary) : Scientific :=
  (((List.range 17).map fun (i : Nat) => b.magnitude - 1 - (i : Int)).findSome? b.onGrid?).getD
    ⟨0, 0⟩

end Binary

/-- How a number is written: positionally where its magnitude lies in a range, otherwise with an
exponent. -/
structure Style where
  leastMagnitude : Int
  greatestMagnitude : Int
  notANumber : String
  infinite : String

/-- Digits without the zeros at their end, and the place of the point behind the first of them. -/
def normalized (d : Scientific) : List Char × Int :=
  let digits := Nat.toDigits 10 d.digits
  ((digits.reverse.dropWhile (· == '0')).reverse, digits.length + d.exponent)

def positional (digits : List Char) (point : Int) : List Char :=
  if point ≤ 0 then '0' :: '.' :: (List.replicate (-point).toNat '0' ++ digits)
  else if point.toNat < digits.length then digits.take point.toNat ++ '.' :: digits.drop point.toNat
  else digits ++ List.replicate (point.toNat - digits.length) '0' ++ ['.', '0']

def scientific (digits : List Char) (point : Int) : List Char :=
  digits.take 1 ++ (if digits.length ≤ 1 then [] else '.' :: digits.drop 1) ++
    'e' :: (toString (point - 1)).toList

/-- The shortest decimal of a double, in a style. -/
def text (style : Style) (x : Double) : String :=
  if x.isNaN then style.notANumber
  else
    let sign := if x.isNegative then "-" else ""
    if x.isInfinite then sign ++ style.infinite
    else if x.isZero then sign ++ "0.0"
    else
      let (digits, point) := normalized (Binary.ofDouble x).shortest
      sign ++ String.ofList (
        if style.leastMagnitude ≤ point && point ≤ style.greatestMagnitude
        then positional digits point else scientific digits point)

end SqlStatement.Decimal
