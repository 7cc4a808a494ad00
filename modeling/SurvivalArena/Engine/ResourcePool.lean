import SurvivalArena.Exception
import SurvivalArena.Framework.Machine

/-!
# Resource pool

Slots for values behind handles.  A dead slot is on a list that runs through the slots, and
every slot counts in its generation how often its value was destroyed, so that a handle
finds only the value it was made for.
-/

namespace SurvivalArena

open Machine

def invalidIndex : UInt32 := 4294967295

structure ResourceHandle where
  index : UInt32 := invalidIndex
  generation : UInt32 := 0
deriving DecidableEq

def ResourceHandle.isValid (handle : ResourceHandle) : Bool :=
  handle.index != invalidIndex && handle.generation != 0

structure ResourceSlot (T : Type) where
  value : Option T := none
  generation : UInt32 := 1
  nextFree : UInt32 := invalidIndex

structure ResourcePool (T : Type) where
  slots : List (ResourceSlot T) := []
  freeHead : UInt32 := invalidIndex
  liveCount : Nat := 0

def nextGeneration (generation : UInt32) : UInt32 :=
  if generation = 4294967295 then 1 else generation + 1

namespace ResourcePool

variable {T : Type}

/-- Make a value in a dead slot or in a new one.  What the constructor of the value yields is
an argument, a value or what it throws. -/
def create (pool : ResourcePool T) (construct : Except Exception T) :
    ResourcePool T × Except Exception ResourceHandle :=
  if pool.freeHead ≠ invalidIndex then
    let index := pool.freeHead
    let slot := pool.slots.getD index.toNat { value := none }
    match construct with
    | .error e =>
      ({ pool with slots := pool.slots.set index.toNat { slot with value := none } }, .error e)
    | .ok value =>
      ({ slots := pool.slots.set index.toNat
            { slot with value := some value, nextFree := invalidIndex }
         freeHead := slot.nextFree
         liveCount := pool.liveCount + 1 }, .ok { index, generation := slot.generation })
  else if invalidIndex.toNat ≤ pool.slots.length then
    (pool, .error (.lengthError "resource pool exhausted its handle index range"))
  else
    match construct with
    | .error e =>
      ({ pool with slots := (pool.slots ++ [({ value := none } : ResourceSlot T)]).dropLast },
        .error e)
    | .ok value =>
      ({ pool with
         slots := pool.slots ++ [{ value := some value }]
         liveCount := pool.liveCount + 1 },
        .ok { index := UInt32.ofNat pool.slots.length, generation := 1 })

def findSlot (pool : ResourcePool T) (handle : ResourceHandle) : Option (ResourceSlot T) :=
  if !handle.isValid || decide (pool.slots.length ≤ handle.index.toNat) then none
  else pool.slots[handle.index.toNat]?.filter fun slot =>
    slot.value.isSome && slot.generation == handle.generation

def get (pool : ResourcePool T) (handle : ResourceHandle) : Option T :=
  (pool.findSlot handle).bind ResourceSlot.value

def destroy (pool : ResourcePool T) (handle : ResourceHandle) : ResourcePool T × Bool :=
  match pool.findSlot handle with
  | none => (pool, false)
  | some slot =>
    ({ slots := pool.slots.set handle.index.toNat
          { value := none
            generation := nextGeneration slot.generation
            nextFree := pool.freeHead }
       freeHead := handle.index
       liveCount := pool.liveCount - 1 }, true)

/-! ## The free list -/

/-- The list of free slots from one on, along the links of the slots. -/
inductive FreeList (slots : List (ResourceSlot T)) : UInt32 → List UInt32 → Prop
  | nil : FreeList slots invalidIndex []
  | cons {index : UInt32} {slot : ResourceSlot T} {rest : List UInt32}
      (hslot : slots[index.toNat]? = some slot) (hrest : FreeList slots slot.nextFree rest) :
      FreeList slots index (index :: rest)

/-- A change of a slot that is not on the list leaves the list. -/
theorem FreeList.set {slots : List (ResourceSlot T)} {head index : UInt32} {free : List UInt32}
    (h : FreeList slots head free) (hindex : index ∉ free) (slot : ResourceSlot T) :
    FreeList (slots.set index.toNat slot) head free := by
  induction h with
  | nil => exact .nil
  | @cons other found rest hslot hrest ih =>
    obtain ⟨hne, hlater⟩ := not_or.mp (mt List.mem_cons.mpr hindex)
    refine .cons ?_ (ih hlater)
    rw [List.getElem?_set_ne (fun hnat => hne (UInt32.toNat_inj.mp hnat))]
    exact hslot

theorem FreeList.append {slots : List (ResourceSlot T)} {head : UInt32} {free : List UInt32}
    (h : FreeList slots head free) (slot : ResourceSlot T) :
    FreeList (slots ++ [slot]) head free := by
  induction h with
  | nil => exact .nil
  | cons hslot hrest ih =>
    refine .cons ?_ ih
    rw [List.getElem?_append_left (List.getElem?_eq_some_iff.mp hslot).1]
    exact hslot

/-- What holds of a pool after every sequence of calls. -/
structure Valid (pool : ResourcePool T) : Prop where
  /-- The free list ends, and holds the dead slots, each once. -/
  free : ∃ free, FreeList pool.slots pool.freeHead free ∧ free.Nodup ∧
    ∀ index : UInt32, index ∈ free ↔
      ∃ slot, pool.slots[index.toNat]? = some slot ∧ slot.value = none
  liveCount : pool.liveCount = pool.slots.countP fun slot => slot.value.isSome
  size : pool.slots.length ≤ invalidIndex.toNat
  generation : ∀ slot ∈ pool.slots, slot.generation ≠ 0

theorem empty_valid : Valid ({} : ResourcePool T) := by
  refine ⟨⟨[], .nil, List.nodup_nil, fun index => ?_⟩, rfl, Nat.zero_le _, ?_⟩
  · simp
  · intro slot hslot
    exact absurd hslot List.not_mem_nil

theorem nextGeneration_ne_zero (generation : UInt32) :
    nextGeneration generation ≠ 0 := by
  unfold nextGeneration
  split
  · decide
  · rename_i hmax
    intro hzero
    have hnat := congrArg UInt32.toNat hzero
    rw [UInt32.toNat_add] at hnat
    have hlt := generation.toNat_lt
    have hne : generation.toNat ≠ 4294967295 := fun heq => hmax (UInt32.toNat_inj.mp heq)
    simp at hnat
    omega

theorem getElem?_set_index {slots : List (ResourceSlot T)} {index other : UInt32}
    {found : ResourceSlot T} (hfound : slots[index.toNat]? = some found)
    (slot : ResourceSlot T) :
    (slots.set index.toNat slot)[other.toNat]? =
      if other = index then some slot else slots[other.toNat]? := by
  have hlt := (List.getElem?_eq_some_iff.mp hfound).1
  by_cases heq : other = index
  · rw [if_pos heq, heq, List.getElem?_set_self hlt]
  · have hne : index.toNat ≠ other.toNat := fun h => heq (UInt32.toNat_inj.mp h).symm
    rw [if_neg heq, List.getElem?_set_ne hne]

/-- The count of the live slots after a change of one. -/
theorem countP_set_index {slots : List (ResourceSlot T)} {index : UInt32}
    {found : ResourceSlot T} (hfound : slots[index.toNat]? = some found)
    (slot : ResourceSlot T) :
    (slots.set index.toNat slot).countP (fun slot => slot.value.isSome) +
        (if found.value.isSome then 1 else 0) =
      slots.countP (fun slot => slot.value.isSome) +
        (if slot.value.isSome then 1 else 0) := by
  obtain ⟨hlt, hget⟩ := List.getElem?_eq_some_iff.mp hfound
  rw [List.countP_set hlt, hget]
  have hle : (if found.value.isSome then 1 else 0) ≤
      slots.countP fun slot => slot.value.isSome := by
    split
    · rename_i hsome
      refine List.countP_pos_iff.mpr ⟨found, ?_, hsome⟩
      exact hget ▸ List.getElem_mem hlt
    · exact Nat.zero_le _
  omega

/-! ## Making a value -/

/-- The dead slot a value is made in. -/
theorem Valid.head {pool : ResourcePool T} (h : pool.Valid)
    (hhead : pool.freeHead ≠ invalidIndex) :
    ∃ slot free, pool.slots[pool.freeHead.toNat]? = some slot ∧ slot.value = none ∧
      FreeList pool.slots slot.nextFree free ∧ (pool.freeHead :: free).Nodup ∧
      ∀ index : UInt32, index ∈ pool.freeHead :: free ↔
        ∃ slot, pool.slots[index.toNat]? = some slot ∧ slot.value = none := by
  obtain ⟨free, hlist, hnodup, hfree⟩ := h.free
  cases hlist' : free with
  | nil =>
    rw [hlist'] at hlist
    generalize pool.freeHead = head at hlist hhead
    cases hlist
    exact absurd rfl hhead
  | cons first rest =>
    subst hlist'
    generalize pool.freeHead = head at hlist hnodup hfree
    cases hlist with
    | @cons _ slot _ hslot hrest =>
      obtain ⟨dead, hdead, hvalue⟩ := (hfree _).mp List.mem_cons_self
      rw [hslot] at hdead
      cases hdead
      exact ⟨slot, rest, hslot, hvalue, hrest, hnodup, hfree⟩

/-- The dead slot that `create` takes. -/
theorem create_reused {pool : ResourcePool T} {slot : ResourceSlot T}
    (hhead : pool.freeHead ≠ invalidIndex)
    (hslot : pool.slots[pool.freeHead.toNat]? = some slot) (value : T) :
    pool.create (.ok value) =
      ({ slots := pool.slots.set pool.freeHead.toNat
            { slot with value := some value, nextFree := invalidIndex }
         freeHead := slot.nextFree
         liveCount := pool.liveCount + 1 },
        .ok { index := pool.freeHead, generation := slot.generation }) := by
  unfold create
  rw [if_pos hhead]
  simp only [List.getD_eq_getElem?_getD, hslot, Option.getD_some]

theorem create_new {pool : ResourcePool T} (hhead : pool.freeHead = invalidIndex)
    (hsize : pool.slots.length < invalidIndex.toNat) (value : T) :
    pool.create (.ok value) =
      ({ pool with
         slots := pool.slots ++ [{ value := some value }]
         liveCount := pool.liveCount + 1 },
        .ok { index := UInt32.ofNat pool.slots.length, generation := 1 }) := by
  unfold create
  rw [if_neg (not_not_intro hhead), if_neg (not_le.mpr hsize)]

theorem toNat_ofNat_index {size : Nat} (h : size < invalidIndex.toNat) :
    (UInt32.ofNat size).toNat = size :=
  UInt32.toNat_ofNat_of_lt' (h.trans (by decide))

/-- A call that throws leaves the pool as it was. -/
theorem create_error {pool : ResourcePool T} (h : pool.Valid)
    {construct : Except Exception T} {e : Exception}
    (herror : (pool.create construct).2 = .error e) : (pool.create construct).1 = pool := by
  by_cases hhead : pool.freeHead = invalidIndex
  · by_cases hsize : pool.slots.length < invalidIndex.toNat
    · cases construct with
      | error thrown =>
        unfold create
        rw [if_neg (not_not_intro hhead), if_neg (not_le.mpr hsize)]
        simp
      | ok value =>
        rw [create_new hhead hsize] at herror
        cases herror
    · unfold create
      rw [if_neg (not_not_intro hhead), if_pos (not_lt.mp hsize)]
  · obtain ⟨slot, free, hslot, hvalue, -, -, -⟩ := h.head hhead
    cases construct with
    | error thrown =>
      have hset : pool.slots.set pool.freeHead.toNat { slot with value := none } =
          pool.slots := by
        obtain ⟨hlt, hget⟩ := List.getElem?_eq_some_iff.mp hslot
        rw [← hvalue, ← hget, List.set_getElem_self]
      unfold create
      rw [if_pos hhead]
      simp only [List.getD_eq_getElem?_getD, hslot, Option.getD_some, hset]
    | ok value =>
      rw [create_reused hhead hslot] at herror
      cases herror

theorem create_reused_valid {pool : ResourcePool T} (h : pool.Valid)
    (hhead : pool.freeHead ≠ invalidIndex) (value : T) :
    (pool.create (.ok value)).1.Valid := by
  obtain ⟨slot, free, hslot, hvalue, hlist, hnodup, hfree⟩ := h.head hhead
  obtain ⟨hhead', hnodup'⟩ := List.nodup_cons.mp hnodup
  have hcount := countP_set_index hslot
    { slot with value := some value, nextFree := invalidIndex }
  rw [create_reused hhead hslot]
  refine ⟨⟨free, hlist.set hhead' _, hnodup', fun index => ?_⟩, ?_, ?_, ?_⟩
  · rw [getElem?_set_index hslot]
    by_cases heq : index = pool.freeHead
    · rw [if_pos heq, heq]
      simp [hhead']
    · rw [if_neg heq, ← hfree, List.mem_cons]
      simp [heq]
  · simp only [hvalue, Option.isSome_none, Option.isSome_some] at hcount
    rw [h.liveCount]
    simpa using hcount.symm
  · rw [List.length_set]
    exact h.size
  · intro other hother
    obtain hmem | rfl := List.mem_or_eq_of_mem_set hother
    · exact h.generation other hmem
    · exact h.generation slot (List.mem_of_getElem? hslot)

theorem create_new_valid {pool : ResourcePool T} (h : pool.Valid)
    (hhead : pool.freeHead = invalidIndex)
    (hsize : pool.slots.length < invalidIndex.toNat) (value : T) :
    (pool.create (.ok value)).1.Valid := by
  obtain ⟨free, hlist, hnodup, hfree⟩ := h.free
  rw [create_new hhead hsize]
  refine ⟨⟨free, hlist.append _, hnodup, fun index => ?_⟩, ?_, ?_, ?_⟩
  · rw [hfree]
    obtain hlt | hge := lt_or_ge index.toNat pool.slots.length
    · rw [List.getElem?_append_left hlt]
    · rw [List.getElem?_append_right hge, List.getElem?_eq_none hge]
      cases index.toNat - pool.slots.length <;> simp
  · rw [List.countP_append, h.liveCount]
    rfl
  · rw [List.length_append]
    exact hsize
  · intro slot hslot
    obtain hmem | hmem := List.mem_append.mp hslot
    · exact h.generation slot hmem
    · rw [List.mem_singleton.mp hmem]
      exact (by decide : (1 : UInt32) ≠ 0)

/-! ## Finding and destroying a value -/

theorem findSlot_eq_some {pool : ResourcePool T} {handle : ResourceHandle}
    {slot : ResourceSlot T} :
    pool.findSlot handle = some slot ↔ handle.isValid = true ∧
      pool.slots[handle.index.toNat]? = some slot ∧ slot.value.isSome = true ∧
        slot.generation = handle.generation := by
  unfold findSlot
  by_cases hvalid : handle.isValid
  · by_cases hlt : pool.slots.length ≤ handle.index.toNat
    · simp [hvalid, hlt]
    · simp [hvalid, hlt, Option.filter_eq_some_iff]
  · simp [hvalid]

theorem destroy_none {pool : ResourcePool T} {handle : ResourceHandle}
    (hfound : pool.findSlot handle = none) : pool.destroy handle = (pool, false) := by
  unfold destroy
  rw [hfound]

theorem destroy_some {pool : ResourcePool T} {handle : ResourceHandle}
    {slot : ResourceSlot T} (hfound : pool.findSlot handle = some slot) :
    pool.destroy handle =
      ({ slots := pool.slots.set handle.index.toNat
            { value := none
              generation := nextGeneration slot.generation
              nextFree := pool.freeHead }
         freeHead := handle.index
         liveCount := pool.liveCount - 1 }, true) := by
  unfold destroy
  rw [hfound]

theorem destroy_valid {pool : ResourcePool T} (h : pool.Valid) (handle : ResourceHandle) :
    (pool.destroy handle).1.Valid := by
  cases hfound : pool.findSlot handle with
  | none => exact (destroy_none hfound).symm ▸ h
  | some slot =>
    rw [destroy_some hfound]
    obtain ⟨-, hslot, hlive, -⟩ := findSlot_eq_some.mp hfound
    obtain ⟨free, hlist, hnodup, hfree⟩ := h.free
    have hmem : handle.index ∉ free := by
      intro hmem
      obtain ⟨dead, hdead, hvalue⟩ := (hfree handle.index).mp hmem
      rw [hslot] at hdead
      cases hdead
      rw [hvalue] at hlive
      cases hlive
    have hset := (getElem?_set_index hslot
      { value := none
        generation := nextGeneration slot.generation
        nextFree := pool.freeHead }).trans (if_pos (rfl : handle.index = handle.index))
    have hcount := countP_set_index hslot
      { value := none
        generation := nextGeneration slot.generation
        nextFree := pool.freeHead }
    simp only [hlive, if_true, Option.isSome_none, Bool.false_eq_true, if_false,
      Nat.add_zero] at hcount
    refine ⟨⟨_, .cons hset (hlist.set hmem _), List.nodup_cons.mpr ⟨hmem, hnodup⟩,
      fun index => ?_⟩, ?_, ?_, ?_⟩
    · rw [getElem?_set_index hslot, List.mem_cons]
      by_cases heq : index = handle.index
      · simp [heq]
      · rw [if_neg heq, ← hfree]
        simp [heq]
    · rw [h.liveCount, ← hcount]
      rfl
    · rw [List.length_set]
      exact h.size
    · intro other hother
      obtain hmem | rfl := List.mem_or_eq_of_mem_set hother
      · exact h.generation other hmem
      · exact nextGeneration_ne_zero slot.generation

/-! ## Calls -/

variable (T) in
inductive Call where
  | create (construct : Except Exception T)
  | destroy (handle : ResourceHandle)
  | get (handle : ResourceHandle)

variable (T) in
inductive Reply where
  | created (outcome : Except Exception ResourceHandle)
  | destroyed (found : Bool)
  | found (value : Option T)

def respond (pool : ResourcePool T) : Call T → ResourcePool T × Reply T
  | .create construct =>
    let (pool, outcome) := pool.create construct
    (pool, .created outcome)
  | .destroy handle =>
    let (pool, found) := pool.destroy handle
    (pool, .destroyed found)
  | .get handle => (pool, .found (pool.get handle))

/-- A value is made in the first free slot or in a new one. -/
theorem create_ok {pool : ResourcePool T} (h : pool.Valid) {construct : Except Exception T}
    {handle : ResourceHandle} (hok : (pool.create construct).2 = .ok handle) :
    ∃ value, construct = .ok value ∧
      ((pool.freeHead ≠ invalidIndex ∧ ∃ slot,
          pool.slots[pool.freeHead.toNat]? = some slot ∧ slot.value = none) ∨
        (pool.freeHead = invalidIndex ∧ pool.slots.length < invalidIndex.toNat)) := by
  cases construct with
  | error e =>
    unfold create at hok
    split at hok
    · cases hok
    · split at hok <;> cases hok
  | ok value =>
    refine ⟨value, rfl, ?_⟩
    by_cases hhead : pool.freeHead = invalidIndex
    · by_cases hsize : pool.slots.length < invalidIndex.toNat
      · exact .inr ⟨hhead, hsize⟩
      · unfold create at hok
        rw [if_neg (not_not_intro hhead), if_pos (not_lt.mp hsize)] at hok
        cases hok
    · obtain ⟨slot, free, hslot, hvalue, -⟩ := h.head hhead
      exact .inl ⟨hhead, slot, hslot, hvalue⟩

theorem create_valid {pool : ResourcePool T} (h : pool.Valid)
    (construct : Except Exception T) : (pool.create construct).1.Valid := by
  cases hresult : (pool.create construct).2 with
  | error e => exact (create_error h hresult).symm ▸ h
  | ok handle =>
    obtain ⟨value, rfl, ⟨hhead, -⟩ | ⟨hhead, hsize⟩⟩ := create_ok h hresult
    · exact create_reused_valid h hhead value
    · exact create_new_valid h hhead hsize value

theorem respond_valid {pool : ResourcePool T} (h : pool.Valid) (call : Call T) :
    (respond pool call).1.Valid := by
  cases call with
  | create construct => exact create_valid h construct
  | destroy handle => exact destroy_valid h handle
  | get handle => exact h

theorem after_valid {pool : ResourcePool T} (h : pool.Valid) (calls : List (Call T)) :
    (after respond pool calls).Valid := by
  induction calls generalizing pool with
  | nil => exact h
  | cons call calls ih => exact ih (respond_valid h call)

/-! ## The slot of a handle -/

/-- What making a value does to a slot: nothing, or the slot was dead and holds the value. -/
theorem create_slot {pool : ResourcePool T} (h : pool.Valid) {construct : Except Exception T}
    {handle : ResourceHandle} (hok : (pool.create construct).2 = .ok handle)
    {index : UInt32} {slot : ResourceSlot T} (hslot : pool.slots[index.toNat]? = some slot) :
    (handle.index ≠ index ∧ (pool.create construct).1.slots[index.toNat]? = some slot) ∨
      (handle.index = index ∧ slot.value = none ∧ ∃ value,
        (pool.create construct).1.slots[index.toNat]? =
          some { slot with value := some value, nextFree := invalidIndex }) := by
  obtain ⟨value, rfl, ⟨hhead, dead, hdead, hvalue⟩ | ⟨hhead, hsize⟩⟩ := create_ok h hok
  · rw [create_reused hhead hdead] at hok ⊢
    cases hok
    by_cases heq : index = pool.freeHead
    · subst heq
      rw [hdead] at hslot
      cases hslot
      refine .inr ⟨rfl, hvalue, value, ?_⟩
      rw [getElem?_set_index hdead, if_pos rfl]
    · refine .inl ⟨Ne.symm heq, ?_⟩
      rw [getElem?_set_index hdead, if_neg heq, hslot]
  · rw [create_new hhead hsize] at hok ⊢
    cases hok
    have hlt := (List.getElem?_eq_some_iff.mp hslot).1
    refine .inl ⟨fun heq => ?_, ?_⟩
    · have hnat := congrArg UInt32.toNat heq
      rw [toNat_ofNat_index hsize] at hnat
      omega
    · rw [List.getElem?_append_left hlt, hslot]

/-- What destroying a value does to a slot: nothing, or the slot held the handle's value. -/
theorem destroy_slot {pool : ResourcePool T} (handle : ResourceHandle) {index : UInt32}
    {slot : ResourceSlot T} (hslot : pool.slots[index.toNat]? = some slot) :
    (pool.destroy handle).1.slots[index.toNat]? = some slot ∨
      (handle.index = index ∧ slot.generation = handle.generation ∧
        slot.value.isSome = true ∧
        (pool.destroy handle).1.slots[index.toNat]? =
          some { value := none
                 generation := nextGeneration slot.generation
                 nextFree := pool.freeHead }) := by
  cases hfound : pool.findSlot handle with
  | none => exact .inl ((destroy_none hfound).symm ▸ hslot)
  | some found =>
    obtain ⟨-, hget, hlive, hgeneration⟩ := findSlot_eq_some.mp hfound
    rw [destroy_some hfound]
    by_cases heq : index = handle.index
    · subst heq
      rw [hget] at hslot
      cases hslot
      refine .inr ⟨rfl, hgeneration, hlive, ?_⟩
      rw [getElem?_set_index hget, if_pos rfl]
    · refine .inl ?_
      rw [getElem?_set_index hget, if_neg heq, hslot]

/-! ## Generations -/

theorem nextGeneration_toNat {generation : UInt32} (h : generation ≠ 0) :
    (nextGeneration generation).toNat = (generation.toNat - 1 + 1) % (2 ^ 32 - 1) + 1 := by
  have hlt := generation.toNat_lt
  have hpos : generation.toNat ≠ 0 := fun hzero => h (UInt32.toNat_inj.mp hzero)
  unfold nextGeneration
  split
  · rename_i hmax
    rw [hmax]
    rfl
  · rename_i hmax
    have hne : generation.toNat ≠ 4294967295 := fun heq => hmax (UInt32.toNat_inj.mp heq)
    rw [UInt32.toNat_add]
    simp
    omega

/-- The generation after so many destructions. -/
theorem iterate_nextGeneration {generation : UInt32} (h : generation ≠ 0) (count : Nat) :
    (nextGeneration^[count] generation).toNat =
      (generation.toNat - 1 + count) % (2 ^ 32 - 1) + 1 := by
  have hlt := generation.toNat_lt
  have hpos : generation.toNat ≠ 0 := fun hzero => h (UInt32.toNat_inj.mp hzero)
  induction count with
  | zero =>
    rw [Function.iterate_zero, id]
    omega
  | succ count ih =>
    have hne : nextGeneration^[count] generation ≠ 0 := by
      intro hzero
      rw [hzero] at ih
      cases ih
    rw [Function.iterate_succ_apply', nextGeneration_toNat hne, ih]
    omega

/-- A generation comes back no sooner than after all the others. -/
theorem iterate_nextGeneration_ne {generation : UInt32} (h : generation ≠ 0) {count : Nat}
    (hpos : 0 < count) (hlt : count < 2 ^ 32 - 1) :
    nextGeneration^[count] generation ≠ generation := by
  intro heq
  have hnat := iterate_nextGeneration h count
  rw [heq] at hnat
  have hbound := generation.toNat_lt
  omega

/-! ## Handles -/

/-- How often a slot got a value in these replies. -/
def reuses (index : UInt32) (replies : List (Reply T)) : Nat :=
  replies.countP fun reply =>
    match reply with
    | .created (.ok handle) => handle.index == index
    | _ => false

/-- The slot of the handle holds the value made with the handle. -/
def Live (value : T) (handle : ResourceHandle) (pool : ResourcePool T) : Prop :=
  ∃ slot, pool.slots[handle.index.toNat]? = some slot ∧ slot.value = some value ∧
    slot.generation = handle.generation

/-- The slot of the handle lost the handle's value, and got others since. -/
def Stale (handle : ResourceHandle) (reused : Nat) (pool : ResourcePool T) : Prop :=
  ∃ slot, pool.slots[handle.index.toNat]? = some slot ∧
    match slot.value with
    | none => slot.generation = nextGeneration^[reused + 1] handle.generation
    | some _ => 0 < reused ∧ slot.generation = nextGeneration^[reused] handle.generation

/-- A created handle can be found. -/
theorem create_live {pool : ResourcePool T} (h : pool.Valid) {value : T}
    {handle : ResourceHandle} (hok : (pool.create (.ok value)).2 = .ok handle) :
    handle.isValid = true ∧ Live value handle (pool.create (.ok value)).1 := by
  obtain ⟨made, hmade, ⟨hhead, slot, hslot, -⟩ | ⟨hhead, hsize⟩⟩ := create_ok h hok
  · rw [create_reused hhead hslot] at hok ⊢
    cases hok
    have hgeneration := h.generation slot (List.mem_of_getElem? hslot)
    refine ⟨by simp [ResourceHandle.isValid, hhead, hgeneration],
      { slot with value := some value, nextFree := invalidIndex }, ?_, rfl, rfl⟩
    rw [getElem?_set_index hslot, if_pos rfl]
  · rw [create_new hhead hsize] at hok ⊢
    cases hok
    have hindex := toNat_ofNat_index hsize
    refine ⟨?_, { value := some value }, ?_, rfl, rfl⟩
    · have hne : UInt32.ofNat pool.slots.length ≠ invalidIndex := by
        intro heq
        rw [heq] at hindex
        omega
      simp [ResourceHandle.isValid, hne]
    · rw [hindex, List.getElem?_append_right le_rfl, Nat.sub_self]
      rfl

theorem live_respond {value : T} {handle : ResourceHandle} {pool : ResourcePool T}
    (hvalid : pool.Valid) (h : Live value handle pool) {call : Call T}
    (hcall : call ≠ .destroy handle) : Live value handle (respond pool call).1 := by
  obtain ⟨slot, hslot, hvalue, hgeneration⟩ := h
  cases call with
  | create construct =>
    cases hresult : (pool.create construct).2 with
    | error e =>
      refine ⟨slot, ?_, hvalue, hgeneration⟩
      show (pool.create construct).1.slots[handle.index.toNat]? = some slot
      rw [create_error hvalid hresult, hslot]
    | ok other =>
      obtain ⟨-, hkeep⟩ | ⟨-, hdead, -⟩ := create_slot hvalid hresult hslot
      · exact ⟨slot, hkeep, hvalue, hgeneration⟩
      · rw [hvalue] at hdead
        cases hdead
  | destroy other =>
    obtain hkeep | ⟨hindex, hother, -, -⟩ := destroy_slot other hslot
    · exact ⟨slot, hkeep, hvalue, hgeneration⟩
    · refine absurd ?_ hcall
      rw [hother] at hgeneration
      cases other
      cases handle
      cases hindex
      cases hgeneration
      rfl
  | get other => exact ⟨slot, hslot, hvalue, hgeneration⟩

theorem live_destroy {value : T} {handle : ResourceHandle} {pool : ResourcePool T}
    (hhandle : handle.isValid = true) (h : Live value handle pool) :
    Stale handle 0 (pool.destroy handle).1 := by
  obtain ⟨slot, hslot, hvalue, hgeneration⟩ := h
  have hfound := findSlot_eq_some.mpr
    ⟨hhandle, hslot, Option.isSome_of_eq_some hvalue, hgeneration⟩
  rw [destroy_some hfound]
  refine ⟨_, (getElem?_set_index hslot _).trans (if_pos rfl), ?_⟩
  rw [← hgeneration]
  rfl

theorem stale_respond {handle : ResourceHandle} {reused : Nat} {pool : ResourcePool T}
    (hvalid : pool.Valid) (h : Stale handle reused pool) (call : Call T) :
    Stale handle (reused + reuses handle.index [(respond pool call).2])
      (respond pool call).1 := by
  obtain ⟨slot, hslot, hgeneration⟩ := h
  cases call with
  | create construct =>
    show Stale handle (reused + reuses handle.index [.created (pool.create construct).2])
      (pool.create construct).1
    cases hresult : (pool.create construct).2 with
    | error e =>
      rw [create_error hvalid hresult]
      exact ⟨slot, hslot, hgeneration⟩
    | ok other =>
      obtain ⟨hindex, hkeep⟩ | ⟨hindex, hdead, value, hmade⟩ :=
        create_slot hvalid hresult hslot
      · have hreuses : reuses handle.index [(.created (.ok other) : Reply T)] = 0 := by
          simp [reuses, hindex]
        rw [hreuses]
        exact ⟨slot, hkeep, hgeneration⟩
      · have hreuses : reuses handle.index [(.created (.ok other) : Reply T)] = 1 := by
          simp [reuses, hindex]
        rw [hdead] at hgeneration
        rw [hreuses]
        exact ⟨_, hmade, Nat.succ_pos reused, hgeneration⟩
  | destroy other =>
    obtain hkeep | ⟨-, -, hlive, hdestroyed⟩ := destroy_slot other hslot
    · exact ⟨slot, hkeep, hgeneration⟩
    · obtain ⟨value, hvalue⟩ := Option.isSome_iff_exists.mp hlive
      rw [hvalue] at hgeneration
      refine ⟨_, hdestroyed, ?_⟩
      show nextGeneration slot.generation = _
      rw [hgeneration.2]
      exact (Function.iterate_succ_apply' nextGeneration reused handle.generation).symm
  | get other => exact ⟨slot, hslot, hgeneration⟩

/-! ## Runs -/

theorem live_after {value : T} {handle : ResourceHandle} {pool : ResourcePool T}
    (hvalid : pool.Valid) (h : Live value handle pool) {later : List (Call T)}
    (hlater : .destroy handle ∉ later) : Live value handle (after respond pool later) := by
  induction later generalizing pool with
  | nil => exact h
  | cons call later ih =>
    obtain ⟨hcall, hrest⟩ := not_or.mp (mt List.mem_cons.mpr hlater)
    exact ih (respond_valid hvalid call) (live_respond hvalid h (Ne.symm hcall)) hrest

theorem reuses_cons (index : UInt32) (reply : Reply T) (replies : List (Reply T)) :
    reuses index (reply :: replies) = reuses index [reply] + reuses index replies := by
  rw [← List.singleton_append]
  exact List.countP_append

theorem stale_after {handle : ResourceHandle} {reused : Nat} {pool : ResourcePool T}
    (hvalid : pool.Valid) (h : Stale handle reused pool) (later : List (Call T)) :
    Stale handle (reused + reuses handle.index (replies respond pool later))
      (after respond pool later) := by
  induction later generalizing pool reused with
  | nil => exact h
  | cons call later ih =>
    rw [replies, reuses_cons, ← Nat.add_assoc]
    exact ih (respond_valid hvalid call) (stale_respond hvalid h call)

/-- Once its value is destroyed, the slot counts on with every value it gets. -/
theorem live_destroyed {value : T} {handle : ResourceHandle} {pool : ResourcePool T}
    (hvalid : pool.Valid) (hhandle : handle.isValid = true) (h : Live value handle pool)
    {later : List (Call T)} (hlater : .destroy handle ∈ later) :
    ∃ reused ≤ reuses handle.index (replies respond pool later),
      Stale handle reused (after respond pool later) := by
  induction later generalizing pool with
  | nil => cases hlater
  | cons call later ih =>
    have hnext := respond_valid hvalid call
    rw [replies, reuses_cons]
    by_cases hcall : call = .destroy handle
    · subst hcall
      have hstale := stale_after hnext (live_destroy hhandle h) later
      rw [Nat.zero_add] at hstale
      exact ⟨_, Nat.le_add_left _ _, hstale⟩
    · have hrest := (List.mem_cons.mp hlater).resolve_left (Ne.symm hcall)
      obtain ⟨reused, hle, hstale⟩ := ih hnext (live_respond hvalid h hcall) hrest
      exact ⟨reused, hle.trans (Nat.le_add_left _ _), hstale⟩

theorem live_get {value : T} {handle : ResourceHandle} {pool : ResourcePool T}
    (hhandle : handle.isValid = true) (h : Live value handle pool) :
    pool.get handle = some value := by
  obtain ⟨slot, hslot, hvalue, hgeneration⟩ := h
  have hfound := findSlot_eq_some.mpr
    ⟨hhandle, hslot, Option.isSome_of_eq_some hvalue, hgeneration⟩
  rw [get, hfound, Option.bind_some, hvalue]

theorem stale_get {handle : ResourceHandle} {reused : Nat} {pool : ResourcePool T}
    (hhandle : handle.isValid = true) (h : Stale handle reused pool)
    (hreused : reused < 2 ^ 32 - 1) : pool.get handle = none := by
  obtain ⟨slot, hslot, hgeneration⟩ := h
  cases hfound : pool.findSlot handle with
  | none => rw [get, hfound, Option.bind_none]
  | some found =>
    obtain ⟨-, hget, hlive, hsame⟩ := findSlot_eq_some.mp hfound
    rw [hslot] at hget
    cases hget
    obtain ⟨value, hvalue⟩ := Option.isSome_iff_exists.mp hlive
    rw [hvalue] at hgeneration
    have hne : handle.generation ≠ 0 := by
      intro hzero
      simp [ResourceHandle.isValid, hzero] at hhandle
    exact absurd (hgeneration.2.symm.trans hsame)
      (iterate_nextGeneration_ne hne hgeneration.1 hreused)

/-- The handle finds the value until it is destroyed, and nothing from then on, unless its
slot was reused for every other generation. -/
structure Resolves (pool : ResourcePool T) (value : T) (handle : ResourceHandle) : Prop where
  alive : ∀ later : List (Call T), .destroy handle ∉ later →
    (after respond pool later).get handle = some value
  stale : ∀ later : List (Call T), .destroy handle ∈ later →
    reuses handle.index (replies respond pool later) < 2 ^ 32 - 1 →
    (after respond pool later).get handle = none

structure Sound (pool : ResourcePool T) : Prop where
  valid : pool.Valid
  failed : ∀ construct e, (pool.create construct).2 = .error e →
    (pool.create construct).1 = pool
  created : ∀ value handle, (pool.create (.ok value)).2 = .ok handle →
    Resolves (pool.create (.ok value)).1 value handle

/-- After all calls the free list holds the dead slots, a failed creation changes nothing,
and a created handle finds its own value only. -/
theorem resourcePool_sound (calls : List (Call T)) : Sound (after respond {} calls) := by
  have hvalid := after_valid empty_valid calls
  refine ⟨hvalid, fun construct e => create_error hvalid, fun value handle hok => ?_⟩
  obtain ⟨hhandle, hlive⟩ := create_live hvalid hok
  have hnext := create_valid hvalid (.ok value)
  constructor
  · intro later hlater
    exact live_get hhandle (live_after hnext hlive hlater)
  · intro later hlater hreuses
    obtain ⟨reused, hle, hstale⟩ := live_destroyed hnext hhandle hlive hlater
    exact stale_get hhandle hstale (hle.trans_lt hreuses)

end ResourcePool

end SurvivalArena
