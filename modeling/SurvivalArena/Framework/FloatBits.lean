import SurvivalArena.Framework.Numerals

/-!
# Bit patterns of single-precision floats

Lean's `Float32` keeps one NaN.  Outside the NaNs a bit pattern is recovered from
the float it denotes, and the IEEE comparison differs from equality of bit
patterns only on the two zeros.
-/

namespace Float32

theorem not_isNaN_of_isFinite {f : Float32} (h : f.isFinite = true) :
    f.isNaN = false := by
  rw [isNaN_eq_decide_eq_nan, decide_eq_false_iff_not]
  rintro rfl
  exact absurd h (by decide +kernel)

theorem toBits_ofBits {b : UInt32} (h : (ofBits b).isNaN = false) :
    (ofBits b).toBits = b := by
  have hpack : (ofBits b).toBits.toBitVec =
      if @Float.Model.UnpackedFloat.isNaNBits .binary32 b.toBitVec then
        Float.Model.UnpackedFloat.packedNaN .binary32 else b.toBitVec :=
    @Float.Model.UnpackedFloat.pack_unpack .binary32 b.toBitVec (by decide)
  split at hpack
  · rw [isNaN_eq_decide_eq_nan, decide_eq_false_iff_not] at h
    refine (h ?_).elim
    rw [← toBits_inj, ← UInt32.toBitVec_inj, hpack]
    decide +kernel
  · exact UInt32.toBitVec_inj.mp hpack

end Float32
