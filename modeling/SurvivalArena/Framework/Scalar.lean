import SurvivalArena.Framework.FloatConvert

/-!
# Scalars

The operations that geometric code needs of its numbers.  Code written over a
scalar runs on the floats of the program and can be reasoned about over exact
numbers.
-/

class Scalar (R : Type) extends Zero R, Add R, Sub R, Neg R, Mul R, Div R,
    OfScientific R, LT R, LE R where
  decidableLT : DecidableLT R
  decidableLE : DecidableLE R
  /-- The numeric comparison, which is not equality on floats. -/
  equal : R → R → Bool
  isFinite : R → Bool
  /-- The greatest integer not above a finite number. -/
  floor : R → Option Int
  /-- The ceiling of a quotient, computed in the wider precision. -/
  ceilQuotient : R → R → Option Int
  sqrt : R → R

namespace Scalar

variable {R : Type} [Scalar R]

instance : DecidableLT R := Scalar.decidableLT
instance : DecidableLE R := Scalar.decidableLE

/-- The smaller of two numbers, the first when they are equal. -/
def min (a b : R) : R := if b < a then b else a

/-- The larger of two numbers, the first when they are equal. -/
def max (a b : R) : R := if a < b then b else a

end Scalar

instance : Scalar Float32 where
  zero := 0
  decidableLT := inferInstance
  decidableLE := inferInstance
  equal := Float32.beq
  isFinite := Float32.isFinite
  floor f := f.toModel.unpack.floor
  ceilQuotient a b := (a.widen / b.widen).toModel.unpack.ceil
  sqrt := Float32.sqrt

/-! ## Precisions

A program computes in one kind of numbers and compares some of them in a wider
kind.  Code written over a precision names both and the conversions between them.
The functions of a mathematical library are apart, as their rounding is the
library's own.
-/

class Precision (R : Type) extends Scalar R where
  Wide : Type
  wideScalar : Scalar Wide
  widen : R → Wide
  narrow : Wide → R
  /-- The conversions of an unsigned number. -/
  ofUInt32 : UInt32 → R
  wideOfUInt64 : UInt64 → Wide
  infinity : R
  wideInfinity : Wide

/-- The trigonometric functions of the library in use. -/
class Trigonometry (R : Type) where
  cos : R → R
  sin : R → R

namespace Scalar

variable {R : Type} [Scalar R]

def abs (a : R) : R := if a < 0 then -a else a

end Scalar

namespace Precision

variable {R : Type} [Precision R]

instance : Scalar (Wide R) := Precision.wideScalar

/-- The floor of a quotient, computed in the wider precision. -/
def floorQuotient (a b : R) : Option Int :=
  Scalar.floor (widen a / widen b)

end Precision

instance : Scalar Float where
  zero := 0
  decidableLT := inferInstance
  decidableLE := inferInstance
  equal := Float.beq
  isFinite := Float.isFinite
  floor f := f.toModel.unpack.floor
  ceilQuotient a b := (a / b).toModel.unpack.ceil
  sqrt := Float.sqrt

instance : Precision Float32 where
  Wide := Float
  wideScalar := inferInstance
  widen := Float32.widen
  narrow := Float.narrow
  ofUInt32 := UInt32.toFloat32
  wideOfUInt64 := UInt64.toFloat
  infinity := 1 / 0
  wideInfinity := 1 / 0

/-! ## Trigonometry by power series -/

/-- The sum of a series, each term the one before times the square over two factors. -/
def seriesFrom (square : Float) : Nat → Float → Float → Float
  | 0, _, _ => 0
  | terms + 1, index, term =>
    term + seriesFrom square terms (index + 2)
      (-(term * square / ((index + 1) * (index + 2))))

/-- The functions of a library that computes them in the wider precision, for
arguments within a turn of zero. -/
@[reducible]
def seriesTrigonometry : Trigonometry Float32 where
  cos x := (seriesFrom (x.widen * x.widen) 16 0 1).narrow
  sin x := (seriesFrom (x.widen * x.widen) 16 1 x.widen).narrow

example : seriesTrigonometry.cos 3.1415927 = -1 := by decide +kernel
