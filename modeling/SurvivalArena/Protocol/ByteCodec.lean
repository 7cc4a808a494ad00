import SurvivalArena.Framework.FloatBits
import SurvivalArena.Framework.Wire
import SurvivalArena.Protocol.GameSnapshot

/-!
# Byte codec

Little-endian fields.  The source's reader keeps its first error and refuses
every later read, so reading some fields and then testing them all stops with
the same error as testing each: a short-circuiting reader.
-/

namespace SurvivalArena

open Wire

inductive DecodeError where
  | truncated
  | invalidValue
  | countLimit
  | trailingBytes
deriving DecidableEq

/-- The errors the shared readers can stop with, in each decoder's own type. -/
class ReadErrors (ε : Type) where
  truncated : ε
  invalidValue : ε
  countLimit : ε

instance : ReadErrors DecodeError := ⟨.truncated, .invalidValue, .countLimit⟩

def writeU8 (value : UInt8) : Bytes := leBytes 1 value.toNat
def writeU16 (value : UInt16) : Bytes := leBytes 2 value.toNat
def writeU32 (value : UInt32) : Bytes := leBytes 4 value.toNat
def writeU64 (value : UInt64) : Bytes := leBytes 8 value.toNat
def writeF32 (value : Float32) : Bytes := writeU32 value.toBits
def writeBool (value : Bool) : Bytes := writeU8 (if value then 1 else 0)
def writeI32 (value : Int32) : Bytes := writeU32 value.toUInt32

section Readers

variable {ε : Type} [ReadErrors ε]

def readU8 : Reader ε UInt8 := UInt8.ofNat <$> readLe ReadErrors.truncated 1
def readU16 : Reader ε UInt16 := UInt16.ofNat <$> readLe ReadErrors.truncated 2
def readU32 : Reader ε UInt32 := UInt32.ofNat <$> readLe ReadErrors.truncated 4
def readU64 : Reader ε UInt64 := UInt64.ofNat <$> readLe ReadErrors.truncated 8
def readF32 : Reader ε Float32 := Float32.ofBits <$> readU32
def readI32 : Reader ε Int32 := UInt32.toInt32 <$> readU32

/-- The boolean a flag byte encodes; bytes above one are invalid. -/
def boolOfU8 (encoded : UInt8) : Reader ε Bool := do
  require (encoded ≤ 1) ReadErrors.invalidValue
  pure (encoded == 1)

def readBool : Reader ε Bool := do
  let encoded ← readU8
  boolOfU8 encoded

def readBoundedVector {α : Type} (maximum : Nat) (readValue : Reader ε α) :
    Reader ε (List α) := do
  let count ← readU16
  require (count.toNat ≤ maximum) ReadErrors.countLimit
  readMany readValue count.toNat

end Readers

def writeVector {α : Type} (writeValue : α → Bytes) (values : List α) : Bytes :=
  writeU16 (UInt16.ofNat values.length) ++ values.flatMap writeValue

/-! ## Lengths -/

@[simp]
theorem writeU8_length (value : UInt8) : (writeU8 value).length = 1 :=
  length_leBytes 1 _

@[simp]
theorem writeU16_length (value : UInt16) : (writeU16 value).length = 2 :=
  length_leBytes 2 _

@[simp]
theorem writeU32_length (value : UInt32) : (writeU32 value).length = 4 :=
  length_leBytes 4 _

@[simp]
theorem writeU64_length (value : UInt64) : (writeU64 value).length = 8 :=
  length_leBytes 8 _

@[simp]
theorem writeBool_length (value : Bool) : (writeBool value).length = 1 :=
  writeU8_length _

/-- A vector of records of at most `size` bytes each. -/
theorem writeVector_length_le {α : Type} {writeValue : α → Bytes} {size : Nat}
    (h : ∀ a, (writeValue a).length ≤ size) (values : List α) :
    (writeVector writeValue values).length ≤ 2 + size * values.length := by
  have hrecords : (values.flatMap writeValue).length ≤ size * values.length := by
    induction values with
    | nil => simp
    | cons a values ih =>
      have ha := h a
      rw [List.flatMap_cons, List.length_append, List.length_cons, Nat.mul_succ]
      omega
  rw [writeVector, List.length_append, writeU16_length]
  omega

/-! ## Exactness -/

section Exactness

variable {ε : Type} [ReadErrors ε]

theorem readU8_exact : Exact (readU8 (ε := ε)) writeU8 :=
  readLe_exact UInt8.toNat_lt (fun _ => UInt8.ofNat_toNat)
    fun _ hv => UInt8.toNat_ofNat_of_lt' hv

theorem readU16_exact : Exact (readU16 (ε := ε)) writeU16 :=
  readLe_exact UInt16.toNat_lt (fun _ => UInt16.ofNat_toNat)
    fun _ hv => UInt16.toNat_ofNat_of_lt' hv

theorem readU32_exact : Exact (readU32 (ε := ε)) writeU32 :=
  readLe_exact UInt32.toNat_lt (fun _ => UInt32.ofNat_toNat)
    fun _ hv => UInt32.toNat_ofNat_of_lt' hv

theorem readU64_exact : Exact (readU64 (ε := ε)) writeU64 :=
  readLe_exact UInt64.toNat_lt (fun _ => UInt64.ofNat_toNat)
    fun _ hv => UInt64.toNat_ofNat_of_lt' hv

/-- A float that is not a NaN is read from its own bit pattern only. -/
theorem readF32_exactOn :
    ExactOn (fun f => f.isNaN = false) (readF32 (ε := ε)) writeF32 := by
  intro f hf input rest
  simp only [readF32, map_eq_ok, readU32_exact.eq_ok, writeF32]
  constructor
  · rintro ⟨bits, rfl, rfl⟩
    rw [Float32.toBits_ofBits hf]
  · rintro rfl
    exact ⟨f.toBits, rfl, Float32.ofBits_toBits f⟩

theorem readI32_exact : Exact (readI32 (ε := ε)) writeI32 := by
  intro v input rest
  simp only [readI32, map_eq_ok, readU32_exact.eq_ok, writeI32]
  constructor
  · rintro ⟨bits, rfl, rfl⟩
    simp
  · rintro rfl
    exact ⟨v.toUInt32, rfl, by simp⟩

theorem boolOfU8_eq_ok {encoded : UInt8} {input rest : Bytes} {value : Bool} :
    boolOfU8 (ε := ε) encoded input = .ok (value, rest) ↔
      encoded = (if value then 1 else 0) ∧ input = rest := by
  simp only [boolOfU8, require_bind_eq_ok, pure_eq_ok, decide_eq_true_eq]
  constructor
  · rintro ⟨hle, rfl, rfl⟩
    refine ⟨?_, rfl⟩
    split
    · simp_all
    · have hne : encoded ≠ 1 := by simp_all
      have hlt : encoded < 1 := lt_of_le_of_ne hle hne
      exact UInt8.lt_one_iff.mp hlt
  · rintro ⟨rfl, rfl⟩
    cases value <;> simp

theorem readBool_exact : Exact (readBool (ε := ε)) writeBool := by
  intro value input rest
  simp only [readBool, readU8_exact.bind_eq_ok, boolOfU8_eq_ok, writeBool]
  constructor
  · rintro ⟨encoded, mid, rfl, rfl, rfl⟩
    rfl
  · rintro rfl
    exact ⟨_, rest, rfl, rfl, rfl⟩

theorem readBoundedVector_exactOn {α : Type} {P : α → Prop}
    {readValue : Reader ε α} {writeValue : α → Bytes} (maximum : Nat)
    (h : ExactOn P readValue writeValue) (hmax : maximum < 65536) :
    ExactOn (fun values => values.length ≤ maximum ∧ ∀ a ∈ values, P a)
      (readBoundedVector maximum readValue) (writeVector writeValue) := by
  rintro values ⟨hlen, hall⟩ input rest
  have hcount : (UInt16.ofNat values.length).toNat = values.length :=
    UInt16.toNat_ofNat_of_lt' (by change _ < 65536; omega)
  simp only [readBoundedVector, readU16_exact.bind_eq_ok, require_bind_eq_ok,
    decide_eq_true_eq, writeVector]
  constructor
  · rintro ⟨count, mid, rfl, -, hmany⟩
    have hn := readMany_length hmany
    rw [((readMany_exactOn h count.toNat).eq_ok ⟨hn, hall⟩).mp hmany, hn]
    simp
  · rintro rfl
    refine ⟨UInt16.ofNat values.length, values.flatMap writeValue ++ rest,
      by simp, by rw [hcount]; exact hlen, ?_⟩
    exact (readMany_exactOn h _).read_write ⟨hcount.symm, hall⟩ rest

end Exactness

end SurvivalArena
