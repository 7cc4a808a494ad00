import SurvivalArena.Framework.Numerals

/-!
# Numbered pieces

A sequence is cut into pieces of one size, the last one shorter.  A collector
has one slot for each piece and may receive the pieces in any order and
repeatedly.
-/

namespace Fragments

variable {α β : Type}

/-- The number of pieces of at most `size` elements. -/
def count (size length : Nat) : Nat :=
  (length + size - 1) / size

/-- The piece with a number. -/
def piece (size : Nat) (whole : List α) (index : Nat) : List α :=
  (whole.drop (index * size)).take size

theorem length_piece (size : Nat) (whole : List α) (index : Nat) :
    (piece size whole index).length = min size (whole.length - index * size) := by
  rw [piece, List.length_take, List.length_drop]

/-- The first pieces make up a prefix. -/
theorem flatMap_piece (size : Nat) (whole : List α) (n : Nat) :
    (List.range n).flatMap (piece size whole) = whole.take (n * size) := by
  induction n with
  | zero => simp
  | succ n ih =>
    rw [List.range_succ, List.flatMap_append, ih, List.flatMap_singleton, piece,
      Nat.succ_mul, List.take_add]

section Positive

variable {size : Nat}

theorem le_count_mul (hsize : 0 < size) (length : Nat) :
    length ≤ count size length * size := by
  have hmod := Nat.mod_lt (length + size - 1) hsize
  have hdiv := Nat.div_add_mod (length + size - 1) size
  rw [Nat.mul_comm] at hdiv
  change length ≤ (length + size - 1) / size * size
  omega

/-- Every piece starts inside the sequence. -/
theorem mul_lt_of_lt_count (hsize : 0 < size) {length index : Nat}
    (h : index < count size length) : index * size < length := by
  have hle : (index + 1) * size ≤ length + size - 1 :=
    (Nat.le_div_iff_mul_le hsize).mp h
  rw [Nat.succ_mul] at hle
  omega

theorem count_pos (hsize : 0 < size) {length : Nat} (h : 0 < length) :
    0 < count size length :=
  Nat.div_pos (by omega) hsize

/-- All pieces together are the sequence. -/
theorem flatMap_piece_count (hsize : 0 < size) (whole : List α) :
    (List.range (count size whole.length)).flatMap (piece size whole) = whole := by
  rw [flatMap_piece]
  exact List.take_of_length_le (le_count_mul hsize whole.length)

end Positive

/-! ## The collector -/

/-- The slots that hold the pieces of a content whose numbers are in `received`. -/
def slots (content : Nat → β) (received : Nat → Bool) (n : Nat) :
    List (Option β) :=
  (List.range n).map fun index =>
    if received index then some (content index) else none

variable {content : Nat → β} {received : Nat → Bool} {n : Nat}

@[simp]
theorem length_slots : (slots content received n).length = n := by
  rw [slots, List.length_map, List.length_range]

/-- Nothing received leaves every slot empty. -/
theorem slots_empty (h : ∀ index, index < n → received index = false) :
    slots content received n = List.replicate n none := by
  apply List.ext_getElem
  · simp
  · intro index hindex _
    rw [length_slots] at hindex
    simp [slots, h index hindex]

theorem getElem?_slots {index : Nat} (h : index < n) :
    (slots content received n)[index]? =
      some (if received index then some (content index) else none) := by
  rw [slots, List.getElem?_map, List.getElem?_range h, Option.map_some]

/-- A number added to those received. -/
def receive (received : Nat → Bool) (index : Nat) : Nat → Bool :=
  fun other => received other || other == index

theorem receive_eq_true {index other : Nat} :
    receive received index other = true ↔ received other = true ∨ other = index := by
  rw [receive, Bool.or_eq_true, beq_iff_eq]

/-- A number received before adds nothing. -/
theorem receive_of_received {index : Nat} (h : received index = true) :
    receive received index = received := by
  funext other
  rw [Bool.eq_iff_iff, receive_eq_true]
  exact ⟨fun hother => hother.elim id fun heq => heq ▸ h, Or.inl⟩

/-- Storing a piece adds its number to those received. -/
theorem set_slots (index : Nat) :
    (slots content received n).set index (some (content index)) =
      slots content (receive received index) n := by
  apply List.ext_getElem
  · simp
  · intro other hother _
    rw [List.getElem_set]
    by_cases h : index = other
    · subst h
      simp [slots, receive]
    · have hne : other ≠ index := Ne.symm h
      simp [slots, receive, h, hne]

theorem all_isSome_slots :
    (slots content received n).all Option.isSome = true ↔
      ∀ index, index < n → received index = true := by
  simp only [slots, List.all_map, List.all_eq_true, List.mem_range,
    Function.comp_apply]
  refine forall_congr' fun index => imp_congr_right fun _ => ?_
  split <;> simp_all

/-- A full collector holds the whole content. -/
theorem reduceOption_slots (h : ∀ index, index < n → received index = true) :
    (slots content received n).reduceOption = (List.range n).map content := by
  have hslots : slots content received n =
      ((List.range n).map content).map some := by
    rw [slots, List.map_map]
    apply List.map_congr_left
    intro index hindex
    rw [if_pos (h index (List.mem_range.mp hindex))]
    rfl
  rw [hslots, List.reduceOption, List.filterMap_map, Function.id_comp,
    List.filterMap_some]

/-- The pieces in a full collector, each with where it came from. -/
theorem exists_parts {γ : Type} {number : γ → Nat} {value : γ → β} {Q : γ → Prop}
    {collected : List (Option β)} (hfull : collected.all Option.isSome = true)
    (h : ∀ index b, collected[index]? = some (some b) →
      ∃ part, Q part ∧ number part = index ∧ value part = b) :
    ∃ parts : List γ, (∀ part ∈ parts, Q part) ∧
      parts.map number = List.range collected.length ∧
      parts.map value = collected.reduceOption := by
  induction collected using List.reverseRecOn with
  | nil => exact ⟨[], by simp, rfl, rfl⟩
  | append_singleton front last ih =>
    rw [List.all_append, Bool.and_eq_true, List.all_cons, List.all_nil,
      Bool.and_true] at hfull
    obtain ⟨hfront, hlast⟩ := hfull
    obtain ⟨b, rfl⟩ := Option.isSome_iff_exists.mp hlast
    obtain ⟨parts, hparts, hnumbers, hvalues⟩ := ih hfront fun index b hindex =>
      h index b (by
        rw [List.getElem?_append_left (List.getElem?_eq_some_iff.mp hindex).1]
        exact hindex)
    obtain ⟨part, hpart, hnumber, hvalue⟩ := h front.length b (by
      rw [List.getElem?_append_right (Nat.le_refl _), Nat.sub_self]
      rfl)
    refine ⟨parts ++ [part], ?_, ?_, ?_⟩
    · rintro other hother
      rcases List.mem_append.mp hother with hother | hother
      · exact hparts other hother
      · rw [List.mem_singleton.mp hother]
        exact hpart
    · rw [List.map_append, hnumbers, List.length_append, List.length_singleton,
        List.range_succ, List.map_singleton, hnumber]
    · rw [List.map_append, hvalues, List.map_singleton, hvalue,
        List.reduceOption_append]
      rfl

end Fragments
