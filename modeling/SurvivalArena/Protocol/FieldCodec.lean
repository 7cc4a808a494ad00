import SurvivalArena.Protocol.ByteCodec
import SurvivalArena.Protocol.LobbyMessages

/-!
# Fields of messages

Tickets and tokens, strings with their length before them, and enumerations.
-/

namespace SurvivalArena

open Wire

section Readers

variable {ε : Type} [ReadErrors ε]

/-- Sixteen bytes that are not looked into. -/
def readOpaque {tag : Type} : Reader ε (Opaque128 tag) := fun input =>
  if h : matchTicketBytes ≤ input.length then
    .ok (⟨input.take matchTicketBytes, List.length_take_of_le h⟩, input.drop matchTicketBytes)
  else .error ReadErrors.truncated

def readString8 (maximum : Nat) : Reader ε Bytes := do
  let count ← readU8
  require (count.toNat ≤ maximum) ReadErrors.countLimit
  takeBytes ReadErrors.truncated count.toNat

/-- The value that an encoded number stands for. -/
def known {α : Type} (value : Option α) : Reader ε α :=
  match value with
  | some value => pure value
  | none => stop ReadErrors.invalidValue

end Readers

/-- The value with a number, among all values of an enumeration. -/
def fromValue {α β : Type} [DecidableEq β] (all : List α) (value : α → β) (number : β) :
    Option α :=
  all.find? fun a => value a = number

theorem fromValue_eq_some {α β : Type} [DecidableEq β] {all : List α} {value : α → β}
    (hall : ∀ a, a ∈ all) (hvalue : (all.map value).Nodup) {number : β} {a : α} :
    fromValue all value number = some a ↔ value a = number := by
  constructor
  · intro h
    simpa using List.find?_some h
  · rintro rfl
    cases hfind : fromValue all value (value a) with
    | none => exact absurd (List.find?_eq_none.mp hfind a (hall a)) (by simp)
    | some found =>
      have hsame : value found = value a := by simpa using List.find?_some hfind
      rw [List.inj_on_of_nodup_map hvalue (hall found) (hall a) hsame]

/-- A string of at most 255 bytes. -/
def writeShortString (value : Bytes) : Bytes :=
  writeU8 (UInt8.ofNat value.length) ++ value

section Exactness

variable {ε : Type} [ReadErrors ε]

theorem readOpaque_exact {tag : Type} :
    Exact (readOpaque : Reader ε (Opaque128 tag)) Opaque128.bytes := by
  intro value input rest
  unfold readOpaque
  constructor
  · intro h
    split at h
    · cases h
      exact (List.take_append_drop matchTicketBytes input).symm
    · cases h
  · rintro rfl
    have hlength : matchTicketBytes ≤ (value.bytes ++ rest).length := by
      rw [List.length_append, value.size]
      exact Nat.le_add_right _ _
    rw [dif_pos hlength]
    have htake : (value.bytes ++ rest).take matchTicketBytes = value.bytes :=
      List.take_left' value.size
    have hdrop : (value.bytes ++ rest).drop matchTicketBytes = rest :=
      List.drop_left' value.size
    have hvalue : (⟨(value.bytes ++ rest).take matchTicketBytes,
        List.length_take_of_le hlength⟩ : Opaque128 tag) = value :=
      Opaque128.bytes_injective htake
    rw [hvalue, hdrop]

theorem readString8_reads {maximum : Nat} (h : maximum ≤ 255) :
    Reads (fun value => value.length ≤ maximum) (readString8 (ε := ε) maximum)
      writeShortString := by
  apply Reads.of_eq_ok
  intro value input rest
  simp only [readString8, readU8_exact.bind_eq_ok, require_bind_eq_ok, takeBytes_eq_ok,
    decide_eq_true_eq, writeShortString]
  constructor
  · rintro ⟨count, _, rfl, hcount, hlength, rfl⟩
    rw [hlength, UInt8.ofNat_toNat]
    exact ⟨hcount, by simp⟩
  · rintro ⟨hlength, rfl⟩
    have hcount : (UInt8.ofNat value.length).toNat = value.length :=
      UInt8.toNat_ofNat_of_lt' (by change _ < 256; omega)
    exact ⟨_, _, List.append_assoc _ _ _, by rw [hcount]; exact hlength, hcount.symm, rfl⟩

theorem readBoundedVector_reads {α : Type} {Valid : α → Prop} {readValue : Reader ε α}
    {writeValue : α → Bytes} (h : Reads Valid readValue writeValue) {maximum : Nat}
    (hmax : maximum < 65536) :
    Reads (fun values => values.length ≤ maximum ∧ ∀ a ∈ values, Valid a)
      (readBoundedVector maximum readValue) (writeVector writeValue) where
  exact := readBoundedVector_exactOn maximum h.exact hmax
  valid values input rest hread := by
    simp only [readBoundedVector, readU16_exact.bind_eq_ok, require_bind_eq_ok,
      decide_eq_true_eq] at hread
    obtain ⟨count, _, -, hcount, hmany⟩ := hread
    obtain ⟨hlength, hvalid⟩ := (readMany_reads h count.toNat).valid _ _ _ hmany
    exact ⟨hlength ▸ hcount, hvalid⟩

omit [ReadErrors ε] in
/-- A list of records after its length in one byte. -/
theorem readCounted_reads {α : Type} {Valid : α → Prop} {readValue : Reader ε α}
    {writeValue : α → Bytes} (h : Reads Valid readValue writeValue) {count : UInt8}
    {values : List α} {input rest : Bytes} :
    readMany readValue count.toNat input = .ok (values, rest) ↔
      values.length = count.toNat ∧ (∀ a ∈ values, Valid a) ∧
        input = values.flatMap writeValue ++ rest := by
  rw [(readMany_reads h count.toNat).eq_ok, and_assoc]

theorem known_eq_ok {α : Type} {value : Option α} {input rest : Bytes} {a : α} :
    known (ε := ε) value input = .ok (a, rest) ↔ value = some a ∧ input = rest := by
  cases value with
  | none => simp [known, stop]
  | some value => simp [known, pure_eq_ok]

theorem known_bind_eq_ok {α β : Type} {value : Option α} {next : α → Reader ε β}
    {input rest : Bytes} {b : β} :
    (known value >>= next) input = .ok (b, rest) ↔
      ∃ a, value = some a ∧ next a input = .ok (b, rest) := by
  simp only [bind_eq_ok, known_eq_ok]
  constructor
  · rintro ⟨a, _, ⟨ha, rfl⟩, hnext⟩
    exact ⟨a, ha, hnext⟩
  · rintro ⟨a, ha, hnext⟩
    exact ⟨a, input, ⟨ha, rfl⟩, hnext⟩

end Exactness

end SurvivalArena
