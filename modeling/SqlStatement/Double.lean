/-! # Double-precision numbers

A double is its 64 bits: a sign, an exponent of 11 bits and a fraction of 52. Comparison follows
the values, so a not-a-number differs from itself and the two zeros are equal.
-/

namespace SqlStatement

structure Double where
  bits : UInt64
deriving DecidableEq, Repr

namespace Double

def isNegative (x : Double) : Bool := x.bits.toNat >>> 63 == 1

def exponentBits (x : Double) : Nat := (x.bits.toNat >>> 52) % 0x800

def fraction (x : Double) : Nat := x.bits.toNat % 0x10000000000000

def isNaN (x : Double) : Bool := x.exponentBits == 0x7FF && x.fraction != 0

def isInfinite (x : Double) : Bool := x.exponentBits == 0x7FF && x.fraction == 0

def isZero (x : Double) : Bool := x.exponentBits == 0 && x.fraction == 0

/-- Equality of the numbers that the bits stand for. -/
def sameNumber (x y : Double) : Bool :=
  !x.isNaN && !y.isNaN && (x.bits == y.bits || (x.isZero && y.isZero))

def ofParts (negative : Bool) (exponentBits fraction : Nat) : Double :=
  ⟨UInt64.ofNat ((if negative then 1 <<< 63 else 0) + (exponentBits <<< 52) + fraction)⟩

/-- The double of the same value as a single-precision number, given by its 32 bits. -/
def ofSingleBits (bits : UInt32) : Double :=
  let n := bits.toNat
  let negative := n >>> 31 == 1
  let exponentBits := (n >>> 23) % 0x100
  let fraction := n % 0x800000
  if exponentBits = 0xFF then ofParts negative 0x7FF (fraction <<< 29)
  else if exponentBits ≠ 0 then ofParts negative (exponentBits + 896) (fraction <<< 29)
  else if fraction = 0 then ofParts negative 0 0
  else
    let top := fraction.log2
    ofParts negative (top + 874) ((fraction - (1 <<< top)) <<< (52 - top))

end Double

end SqlStatement
