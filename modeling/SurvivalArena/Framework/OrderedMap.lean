import SurvivalArena.Framework.UIntOrder

/-!
# Ordered maps as partial functions

Lookups in an ordered map after an update, in terms of equality of keys, and the
map as a partial function that the update changes at one key.
-/

namespace OrderedMap

variable {κ β : Type} [LinearOrder κ]

/-- The map as a partial function. -/
def entry (map : Std.ExtTreeMap κ β) (key : κ) : Option β :=
  map[key]?

theorem getElem?_insert (map : Std.ExtTreeMap κ β) (key other : κ) (value : β) :
    (map.insert key value)[other]? =
      if other = key then some value else map[other]? := by
  rw [Std.ExtTreeMap.getElem?_insert]
  by_cases h : other = key
  · simp [h]
  · simp [h, Ne.symm h]

theorem getElem?_insertIfNew (map : Std.ExtTreeMap κ β) {key : κ}
    (h : map[key]? = none) (other : κ) (value : β) :
    (map.insertIfNew key value)[other]? =
      if other = key then some value else map[other]? := by
  have hmem : key ∉ map := by
    simpa using h
  rw [Std.ExtTreeMap.getElem?_insertIfNew]
  by_cases heq : other = key
  · simp [heq, hmem]
  · simp [heq, Ne.symm heq]

theorem getElem?_erase (map : Std.ExtTreeMap κ β) (key other : κ) :
    (map.erase key)[other]? = if other = key then none else map[other]? := by
  rw [Std.ExtTreeMap.getElem?_erase]
  by_cases h : other = key
  · simp [h]
  · simp [h, Ne.symm h]

/-- An update of a key that is there keeps the size. -/
theorem size_insert_of_some (map : Std.ExtTreeMap κ β) {key : κ} {value : β}
    (h : map[key]? = some value) (other : β) :
    (map.insert key other).size = map.size := by
  have hcontains : map.contains key = true := by
    rw [Std.ExtTreeMap.contains_eq_isSome_getElem?, h]
    rfl
  rw [Std.ExtTreeMap.size_insert, if_pos hcontains]

/-- The later of two updates of one key is what counts. -/
theorem insert_insert (map : Std.ExtTreeMap κ β) (key : κ) (value other : β) :
    (map.insert key value).insert key other = map.insert key other := by
  apply Std.ExtTreeMap.ext_getElem?
  intro k
  rw [getElem?_insert, getElem?_insert, getElem?_insert]
  split <;> rfl

/-- Writing a key's own value back undoes an update. -/
theorem insert_insert_self (map : Std.ExtTreeMap κ β) {key : κ} {value : β}
    (h : map[key]? = some value) (other : β) :
    (map.insert key other).insert key value = map := by
  apply Std.ExtTreeMap.ext_getElem?
  intro k
  rw [getElem?_insert, getElem?_insert]
  by_cases hk : k = key
  · rw [if_pos hk, hk, h]
  · rw [if_neg hk, if_neg hk]

/-- Erasing a list of keys clears exactly these keys. -/
theorem getElem?_foldl_erase (keys : List κ) (map : Std.ExtTreeMap κ β)
    (other : κ) :
    (keys.foldl (·.erase ·) map)[other]? =
      if other ∈ keys then none else map[other]? := by
  induction keys generalizing map with
  | nil => simp
  | cons key keys ih =>
    rw [List.foldl_cons, ih, getElem?_erase]
    by_cases hkey : other = key
    · simp [hkey]
    · simp [hkey]

theorem entry_insert (map : Std.ExtTreeMap κ β) (key : κ) (value : β) :
    entry (map.insert key value) =
      Function.update (entry map) key (some value) := by
  funext other
  rw [entry, getElem?_insert, Function.update_apply]
  rfl

theorem entry_insertIfNew (map : Std.ExtTreeMap κ β) {key : κ}
    (h : map[key]? = none) (value : β) :
    entry (map.insertIfNew key value) =
      Function.update (entry map) key (some value) := by
  funext other
  rw [entry, getElem?_insertIfNew map h, Function.update_apply]
  rfl

theorem entry_erase (map : Std.ExtTreeMap κ β) (key : κ) :
    entry (map.erase key) = Function.update (entry map) key none := by
  funext other
  rw [entry, getElem?_erase, Function.update_apply]
  rfl

/-! ## Values -/

theorem values_eq (map : Std.ExtTreeMap κ β) : map.values = map.toList.map Prod.snd := by
  have hfold : map.values = map.foldr (fun _ value values => value :: values) [] := by
    obtain ⟨inner⟩ := map
    induction inner using Std.ExtDTreeMap.inductionOn with
    | _ tree => rfl
  rw [hfold, Std.ExtTreeMap.foldr_eq_foldr_toList]
  induction map.toList with
  | nil => rfl
  | cons entry entries ih => rw [List.foldr_cons, ih, List.map_cons]

theorem exists_of_mem_values {map : Std.ExtTreeMap κ β} {value : β} (h : value ∈ map.values) :
    ∃ key : κ, map[key]? = some value := by
  rw [values_eq] at h
  obtain ⟨⟨key, value⟩, hentry, rfl⟩ := List.mem_map.mp h
  exact ⟨key, Std.ExtTreeMap.mem_toList_iff_getElem?_eq_some.mp hentry⟩

/-- Values that tell their keys are all different. -/
theorem nodup_values {map : Std.ExtTreeMap κ β} {keyOf : β → κ}
    (h : ∀ (key : κ) (value : β), map[key]? = some value → keyOf value = key) :
    (map.values.map keyOf).Nodup := by
  have hkeys : map.values.map keyOf = map.toList.map Prod.fst := by
    rw [values_eq, List.map_map]
    exact List.map_congr_left fun entry hentry =>
      h entry.1 entry.2 (Std.ExtTreeMap.mem_toList_iff_getElem?_eq_some.mp hentry)
  rw [hkeys]
  refine List.pairwise_map.mpr (Std.ExtTreeMap.distinct_keys_toList.imp fun hdistinct => ?_)
  exact fun hsame => hdistinct (Std.LawfulEqCmp.compare_eq_iff_eq.mpr hsame)

end OrderedMap
