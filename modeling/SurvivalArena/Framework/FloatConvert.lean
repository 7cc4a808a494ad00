import SurvivalArena.Framework.Numerals

/-!
# Conversions of floats

Lean's conversions between the two float formats and its roundings have no
logical model.  These are their IEEE definitions on the unpacked form, where a
finite float is exactly its mantissa times a power of two.
-/

open Float.Model

/-- The nearest float of another format, ties to even. -/
def Float.Model.UnpackedFloat.convert (spec : Format) :
    UnpackedFloat → UnpackedFloat
  | .finite sign mantissa exponent _ =>
    UnpackedFloat.round spec sign mantissa exponent
  | special => special

def Float32.widen (f : Float32) : Float :=
  .ofModel (.pack (f.toModel.unpack.convert .binary64))

def Float.narrow (f : Float) : Float32 :=
  .ofModel (.pack (f.toModel.unpack.convert .binary32))

/-- The integer nearest to a magnitude, ties away from zero. -/
def roundMagnitude (mantissa : Nat) : Int → Nat
  | .ofNat shift => mantissa <<< shift
  | .negSucc shift => (mantissa + 2 ^ shift) >>> (shift + 1)

/-- C's `llround`; the result is unspecified for a float that is not finite. -/
def Float.llround (f : Float) : Int :=
  match f.toModel.unpack with
  | .finite .positive mantissa exponent _ => roundMagnitude mantissa exponent
  | .finite .negative mantissa exponent _ => -roundMagnitude mantissa exponent
  | _ => 0

/-- The floor of a magnitude, or its ceiling. -/
def floorMagnitude (mantissa : Nat) : Int → Nat
  | .ofNat shift => mantissa <<< shift
  | .negSucc shift => mantissa >>> (shift + 1)

def ceilMagnitude (mantissa : Nat) : Int → Nat
  | .ofNat shift => mantissa <<< shift
  | .negSucc shift => (mantissa + (2 ^ (shift + 1) - 1)) >>> (shift + 1)

/-- The greatest integer not above a finite float. -/
def Float.Model.UnpackedFloat.floor : UnpackedFloat → Option Int
  | .finite .positive mantissa exponent _ =>
    some (floorMagnitude mantissa exponent)
  | .finite .negative mantissa exponent _ =>
    some (-ceilMagnitude mantissa exponent)
  | .zero _ => some 0
  | _ => none

/-- The least integer not below a finite float. -/
def Float.Model.UnpackedFloat.ceil : UnpackedFloat → Option Int
  | .finite .positive mantissa exponent _ =>
    some (ceilMagnitude mantissa exponent)
  | .finite .negative mantissa exponent _ =>
    some (-floorMagnitude mantissa exponent)
  | .zero _ => some 0
  | _ => none

example : (2.5 : Float).llround = 3 ∧ (-2.5 : Float).llround = -3 := by
  decide +kernel
