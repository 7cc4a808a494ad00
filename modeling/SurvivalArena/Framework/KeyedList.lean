import SurvivalArena.Framework.Numerals

/-!
# Lists in strictly ascending key order

A list whose keys ascend strictly is a finite map with a canonical form: it is
determined by its entries.  The single-entry operations stop at the lower bound
of the key; each has one lemma that gives its effect on the entries, and the bulk
operations follow by induction.
-/

namespace KeyedList

variable {α κ δ : Type} [LinearOrder κ] (key : α → κ)

/-- The keys of the list ascend strictly. -/
def Ascending (l : List α) : Prop :=
  l.Pairwise fun a b => key a < key b

instance (l : List α) : Decidable (Ascending key l) :=
  inferInstanceAs (Decidable (l.Pairwise _))

/-- Lower-bound search for the entry with key `k`. -/
def lookup (k : κ) : List α → Option α
  | [] => none
  | a :: l =>
    if key a < k then lookup k l else if key a = k then some a else none

/-- Remove the entry at the lower bound of `k`, if it has that key. -/
def erase (k : κ) : List α → Option (List α)
  | [] => none
  | a :: l =>
    if key a < k then (erase k l).map (a :: ·)
    else if key a = k then some l else none

/-- Insert before the lower bound, unless the key is taken. -/
def insert (x : α) : List α → Option (List α)
  | [] => some [x]
  | a :: l =>
    if key a < key x then (insert x l).map (a :: ·)
    else if key a = key x then none else some (x :: a :: l)

/-- Update the entry at the lower bound of `k`, if it has that key. -/
def modify (k : κ) (f : α → α) : List α → Option (List α)
  | [] => none
  | a :: l =>
    if key a < k then (modify k f l).map (a :: ·)
    else if key a = k then some (f a :: l) else none

variable {key}

@[simp]
theorem ascending_nil : Ascending key [] := List.Pairwise.nil

theorem ascending_cons {a : α} {l : List α} :
    Ascending key (a :: l) ↔ (∀ b ∈ l, key a < key b) ∧ Ascending key l :=
  List.pairwise_cons

theorem Ascending.tail {a : α} {l : List α} (h : Ascending key (a :: l)) :
    Ascending key l :=
  (ascending_cons.mp h).2

theorem Ascending.sublist {l l' : List α} (h : Ascending key l)
    (hsub : List.Sublist l' l) : Ascending key l' :=
  List.Pairwise.sublist hsub h

theorem ascending_map {β : Type} {f : β → α} {l : List β} :
    Ascending key (l.map f) ↔ Ascending (fun b => key (f b)) l :=
  List.pairwise_map

theorem ascending_keys {l : List α} :
    Ascending id (l.map key) ↔ Ascending key l :=
  List.pairwise_map

theorem Ascending.nodup_keys {l : List α} (h : Ascending key l) :
    (l.map key).Nodup :=
  List.pairwise_map.mpr (h.imp ne_of_lt)

theorem lookup_eq_some {l : List α} (h : Ascending key l) {k : κ} {a : α} :
    lookup key k l = some a ↔ a ∈ l ∧ key a = k := by
  induction l with
  | nil => simp [lookup]
  | cons b l ih =>
    obtain ⟨hb, hl⟩ := ascending_cons.mp h
    have ih := ih hl
    simp only [lookup, List.mem_cons]
    grind

theorem lookup_eq_none {l : List α} (h : Ascending key l) {k : κ} :
    lookup key k l = none ↔ ∀ a ∈ l, key a ≠ k := by
  constructor
  · intro hn a ha hk
    rw [(lookup_eq_some h).mpr ⟨ha, hk⟩] at hn
    exact Option.some_ne_none _ hn
  · intro hall
    cases hs : lookup key k l with
    | none => rfl
    | some a =>
      obtain ⟨ha, hk⟩ := (lookup_eq_some h).mp hs
      exact (hall a ha hk).elim

theorem key_of_lookup {l : List α} {k : κ} {a : α}
    (h : lookup key k l = some a) : key a = k := by
  induction l with
  | nil => simp [lookup] at h
  | cons b l ih => simp only [lookup] at h; grind

theorem mem_of_lookup {l : List α} {k : κ} {a : α}
    (h : lookup key k l = some a) : a ∈ l := by
  induction l with
  | nil => simp [lookup] at h
  | cons b l ih => simp only [lookup] at h; grind

theorem lookup_isSome {l : List α} (h : Ascending key l) {k : κ} :
    (lookup key k l).isSome ↔ ∃ a ∈ l, key a = k := by
  simp only [Option.isSome_iff_exists, lookup_eq_some h]

/-- An ascending list is determined by its members. -/
theorem Ascending.ext {l l' : List α} (h : Ascending key l) (h' : Ascending key l')
    (hmem : ∀ a, a ∈ l ↔ a ∈ l') : l = l' := by
  have hperm : List.Perm l l' :=
    (List.perm_ext_iff_of_nodup (List.Nodup.of_map key h.nodup_keys)
      (List.Nodup.of_map key h'.nodup_keys)).mpr hmem
  exact hperm.eq_of_pairwise
    (fun a b _ _ hab hba => (lt_asymm hab hba).elim) h h'

/-- The first entry with a property is that of every ascending list with the same such
entries. -/
theorem Ascending.find?_eq {l l' : List α} (h : Ascending key l) (h' : Ascending key l')
    {p : α → Bool} (hmem : ∀ a, p a = true → (a ∈ l ↔ a ∈ l')) : l.find? p = l'.find? p := by
  have hfilter : l.filter p = l'.filter p :=
    (h.sublist List.filter_sublist).ext (h'.sublist List.filter_sublist) fun a => by
      rw [List.mem_filter, List.mem_filter]
      exact and_congr_left (hmem a)
  rw [← List.head?_filter, hfilter, List.head?_filter]

/-! ## Sorting -/

variable (key) in
/-- Sort by key; the order of entries with equal keys is not specified. -/
def sortByKey (l : List α) : List α :=
  l.insertionSort fun a b => key a ≤ key b

/-- Two neighbours have the same key. -/
def hasAdjacentDuplicate {κ : Type} [DecidableEq κ] (key : α → κ) :
    List α → Bool
  | a :: b :: l => key a == key b || hasAdjacentDuplicate key (b :: l)
  | _ => false

theorem sortByKey_perm (l : List α) : List.Perm (sortByKey key l) l :=
  List.perm_insertionSort _ l

theorem sortByKey_pairwise (l : List α) :
    (sortByKey key l).Pairwise fun a b => key a ≤ key b := by
  have : Std.Total fun a b : α => key a ≤ key b :=
    ⟨fun a b => le_total (key a) (key b)⟩
  have : IsTrans α fun a b : α => key a ≤ key b :=
    ⟨fun _ _ _ hab hbc => hab.trans hbc⟩
  exact List.pairwise_insertionSort _ l

theorem sortByKey_eq_self {l : List α}
    (h : l.Pairwise fun a b => key a ≤ key b) : sortByKey key l = l :=
  List.Pairwise.insertionSort_eq h

/-- Elements with different keys are inserted in either order. -/
theorem orderedInsert_comm {a b : α} (hne : key a ≠ key b) (l : List α) :
    List.orderedInsert (fun x y => key x ≤ key y) a
        (List.orderedInsert (fun x y => key x ≤ key y) b l) =
      List.orderedInsert (fun x y => key x ≤ key y) b
        (List.orderedInsert (fun x y => key x ≤ key y) a l) := by
  induction l with
  | nil =>
    simp only [List.orderedInsert]
    split_ifs <;> first | rfl | (exfalso; order)
  | cons c l ih =>
    simp only [List.orderedInsert]
    split_ifs <;> simp only [List.orderedInsert] <;> split_ifs <;>
      first | rfl | (exfalso; order) | rw [ih]

/-- Sorting does not depend on the order of a part in which equal keys mean equal
elements. -/
theorem sortByKey_append_congr {front front' : List α} (h : List.Perm front front')
    (hkey : ∀ a ∈ front, ∀ b ∈ front, key a = key b → a = b) (rest : List α) :
    sortByKey key (front ++ rest) = sortByKey key (front' ++ rest) := by
  induction h with
  | nil => rfl
  | cons a h ih =>
    have htail := ih fun b hb c hc =>
      hkey b (List.mem_cons_of_mem _ hb) c (List.mem_cons_of_mem _ hc)
    simp only [sortByKey, List.cons_append, List.insertionSort_cons] at htail ⊢
    rw [htail]
  | swap a b front =>
    simp only [sortByKey, List.cons_append, List.insertionSort_cons]
    by_cases hsame : key b = key a
    · rw [hkey b List.mem_cons_self a (List.mem_cons_of_mem _ List.mem_cons_self) hsame]
    · exact orderedInsert_comm hsame _
  | trans h₁ h₂ ih₁ ih₂ =>
    rw [ih₁ hkey, ih₂ fun b hb c hc =>
      hkey b (h₁.mem_iff.mpr hb) c (h₁.mem_iff.mpr hc)]

theorem Ascending.pairwise_le {l : List α} (h : Ascending key l) :
    l.Pairwise fun a b => key a ≤ key b :=
  h.imp le_of_lt

theorem Ascending.hasAdjacentDuplicate_eq_false {l : List α}
    (h : Ascending key l) : hasAdjacentDuplicate key l = false := by
  induction l with
  | nil => rfl
  | cons a l ih =>
    cases l with
    | nil => rfl
    | cons b l =>
      have hab := (ascending_cons.mp h).1 b List.mem_cons_self
      simp [hasAdjacentDuplicate, hab.ne, ih h.tail]

theorem ascending_of_pairwise_le {l : List α}
    (h : l.Pairwise fun a b => key a ≤ key b)
    (hd : hasAdjacentDuplicate key l = false) : Ascending key l := by
  induction l with
  | nil => exact ascending_nil
  | cons a l ih =>
    obtain ⟨ha, hl⟩ := List.pairwise_cons.mp h
    cases l with
    | nil => exact List.pairwise_singleton _ _
    | cons b l =>
      simp only [hasAdjacentDuplicate, Bool.or_eq_false_iff, beq_eq_false_iff_ne]
        at hd
      have hasc := ih hl hd.2
      have hab : key a < key b :=
        lt_of_le_of_ne (ha b List.mem_cons_self) hd.1
      refine ascending_cons.mpr ⟨?_, hasc⟩
      intro c hc
      rcases List.mem_cons.mp hc with rfl | hc
      · exact hab
      · exact hab.trans ((ascending_cons.mp hasc).1 c hc)

/-- Sorting brings equal keys together. -/
theorem hasAdjacentDuplicate_sortByKey {l : List α} :
    hasAdjacentDuplicate key (sortByKey key l) = false ↔ (l.map key).Nodup := by
  have hnd : ((sortByKey key l).map key).Nodup ↔ (l.map key).Nodup :=
    ((sortByKey_perm l).map key).nodup_iff
  rw [← hnd]
  constructor
  · intro h
    exact (ascending_of_pairwise_le (sortByKey_pairwise l) h).nodup_keys
  · intro h
    refine Ascending.hasAdjacentDuplicate_eq_false ?_
    have hne := List.pairwise_map.mp h
    exact (sortByKey_pairwise l).imp₂
      (fun _ _ hle hne => lt_of_le_of_ne hle hne) hne

/-! ## Single entries -/

/-- Drop every entry equal to the one before it. -/
def unique {α : Type} [DecidableEq α] : List α → List α
  | a :: b :: l => if a = b then unique (b :: l) else a :: unique (b :: l)
  | l => l

theorem mem_unique {α : Type} [DecidableEq α] {l : List α} {a : α} :
    a ∈ unique l ↔ a ∈ l := by
  induction l with
  | nil => simp [unique]
  | cons b l ih =>
    cases l with
    | nil => simp [unique]
    | cons c l =>
      rw [unique]
      split
      · rename_i hbc
        simp [ih, hbc]
      · simp only [List.mem_cons] at ih
        simp only [List.mem_cons, ih]

/-- Sorting and dropping repetitions gives a strictly ascending list. -/
theorem ascending_unique {l : List κ} (h : l.Pairwise (· ≤ ·)) :
    Ascending id (unique l) := by
  induction l with
  | nil => exact ascending_nil
  | cons a l ih =>
    cases l with
    | nil => simp [unique, Ascending]
    | cons b l =>
      have htail := ih (List.pairwise_cons.mp h).2
      rw [unique]
      split
      · exact htail
      · rename_i hab
        refine ascending_cons.mpr ⟨?_, htail⟩
        intro c hc
        have hac : a ≤ c :=
          (List.pairwise_cons.mp h).1 c (mem_unique.mp hc)
        have hbc : b ≤ c := by
          rcases List.mem_cons.mp (mem_unique.mp hc) with rfl | hmem
          · exact le_rfl
          · exact (List.pairwise_cons.mp (List.pairwise_cons.mp h).2).1 c hmem
        have hlt : a < b :=
          lt_of_le_of_ne ((List.pairwise_cons.mp h).1 b List.mem_cons_self) hab
        exact hlt.trans_le hbc

theorem erase_spec {l l' : List α} {k : κ} (h : Ascending key l)
    (he : erase key k l = some l') :
    Ascending key l' ∧ l'.length + 1 = l.length ∧
      (∀ a, a ∈ l' ↔ a ∈ l ∧ key a ≠ k) := by
  induction l generalizing l' with
  | nil => simp [erase] at he
  | cons b l ih =>
    obtain ⟨hb, hl⟩ := ascending_cons.mp h
    simp only [erase] at he
    split at he
    · obtain ⟨m, hm, rfl⟩ := Option.map_eq_some_iff.mp he
      obtain ⟨hasc, hlen, hmem⟩ := ih hl hm
      refine ⟨ascending_cons.mpr ⟨fun c hc => hb c ((hmem c).mp hc).1, hasc⟩,
        by simp [hlen], ?_⟩
      intro a
      simp only [List.mem_cons, hmem]
      grind
    · split at he
      · obtain rfl := Option.some.inj he
        refine ⟨hl, rfl, ?_⟩
        intro a
        simp only [List.mem_cons]
        grind
      · simp at he

theorem erase_isSome {l : List α} {k : κ} :
    (erase key k l).isSome = (lookup key k l).isSome := by
  induction l with
  | nil => rfl
  | cons b l ih => simp only [erase, lookup]; split_ifs <;> simp_all

theorem insert_spec {l l' : List α} {x : α} (h : Ascending key l)
    (hi : insert key x l = some l') :
    Ascending key l' ∧ l'.length = l.length + 1 ∧
      (∀ a, a ∈ l' ↔ a = x ∨ a ∈ l) := by
  induction l generalizing l' with
  | nil =>
    obtain rfl := Option.some.inj hi
    exact ⟨List.pairwise_singleton _ _, rfl, by simp⟩
  | cons b l ih =>
    obtain ⟨hb, hl⟩ := ascending_cons.mp h
    simp only [insert] at hi
    split at hi
    · obtain ⟨m, hm, rfl⟩ := Option.map_eq_some_iff.mp hi
      obtain ⟨hasc, hlen, hmem⟩ := ih hl hm
      refine ⟨ascending_cons.mpr ⟨?_, hasc⟩, by simp [hlen], ?_⟩
      · intro c hc
        rcases (hmem c).mp hc with rfl | hc
        · assumption
        · exact hb c hc
      · intro a
        simp only [List.mem_cons, hmem]
        tauto
    · split at hi
      · simp at hi
      · obtain rfl := Option.some.inj hi
        have hx : key x < key b := by
          rename_i h1 h2
          exact lt_of_le_of_ne (not_lt.mp h1) (Ne.symm h2)
        refine ⟨ascending_cons.mpr ⟨?_, h⟩, rfl, by simp⟩
        intro c hc
        rcases List.mem_cons.mp hc with rfl | hc
        · exact hx
        · exact hx.trans (hb c hc)

theorem insert_isSome {l : List α} {x : α} :
    (insert key x l).isSome = (lookup key (key x) l).isNone := by
  induction l with
  | nil => rfl
  | cons b l ih => simp only [insert, lookup]; split_ifs <;> simp_all

theorem modify_spec {l l' : List α} {k : κ} {f : α → α}
    (hf : ∀ a, key (f a) = key a) (h : Ascending key l)
    (hm : modify key k f l = some l') :
    Ascending key l' ∧ l'.length = l.length ∧
      (∀ a, a ∈ l' ↔ ∃ b ∈ l, a = if key b = k then f b else b) := by
  induction l generalizing l' with
  | nil => simp [modify] at hm
  | cons b l ih =>
    obtain ⟨hb, hl⟩ := ascending_cons.mp h
    simp only [modify] at hm
    split at hm
    · obtain ⟨m, hm', rfl⟩ := Option.map_eq_some_iff.mp hm
      obtain ⟨hasc, hlen, hmem⟩ := ih hl hm'
      refine ⟨ascending_cons.mpr ⟨?_, hasc⟩, by simp [hlen], ?_⟩
      · intro c hc
        obtain ⟨d, hd, rfl⟩ := (hmem c).mp hc
        have := hb d hd
        split <;> simp_all
      · intro a
        simp only [List.mem_cons, hmem, exists_eq_or_imp]
        grind
    · split at hm
      · obtain rfl := Option.some.inj hm
        refine ⟨ascending_cons.mpr ⟨by simpa [hf] using hb, hl⟩, rfl, ?_⟩
        intro a
        simp only [List.mem_cons, exists_eq_or_imp]
        have hne : ∀ c ∈ l, key c ≠ k := by
          intro c hc
          have := hb c hc
          grind
        grind
      · simp at hm

theorem modify_isSome {l : List α} {k : κ} {f : α → α} :
    (modify key k f l).isSome = (lookup key k l).isSome := by
  induction l with
  | nil => rfl
  | cons b l ih => simp only [modify, lookup]; split_ifs <;> simp_all

/-! ## Bulk operations -/

variable (key) in
def eraseAll (ks : List κ) (l : List α) : Option (List α) :=
  ks.foldlM (fun l k => erase key k l) l

variable (key) in
def insertAll (xs : List α) (l : List α) : Option (List α) :=
  xs.foldlM (fun l x => insert key x l) l

variable (key) in
/-- Apply each change to the entry with the change's key. -/
def modifyAll (dkey : δ → κ) (app : δ → α → α) (ds : List δ) (l : List α) :
    Option (List α) :=
  ds.foldlM (fun l d => modify key (dkey d) (app d) l) l

variable (key) in
/-- What a list of changes makes of one entry. -/
def patch (dkey : δ → κ) (app : δ → α → α) : List δ → α → α
  | [], a => a
  | d :: ds, a => patch dkey app ds (if key a = dkey d then app d a else a)

theorem eraseAll_spec {ks : List κ} {l l' : List α} (h : Ascending key l)
    (he : eraseAll key ks l = some l') :
    Ascending key l' ∧ l'.length + ks.length = l.length ∧
      (∀ a, a ∈ l' ↔ a ∈ l ∧ key a ∉ ks) := by
  induction ks generalizing l with
  | nil =>
    obtain rfl := Option.some.inj he
    simp [h]
  | cons k ks ih =>
    obtain ⟨m, hm, hrest⟩ := Option.bind_eq_some_iff.mp he
    obtain ⟨hasc, hlen, hmem⟩ := erase_spec h hm
    obtain ⟨hasc', hlen', hmem'⟩ := ih hasc hrest
    refine ⟨hasc', by simp only [List.length_cons]; omega, ?_⟩
    intro a
    simp only [hmem', hmem, List.mem_cons, not_or, and_assoc]

theorem eraseAll_exists {ks : List κ} {l : List α} (h : Ascending key l)
    (hnd : ks.Nodup) (hks : ∀ k ∈ ks, ∃ a ∈ l, key a = k) :
    ∃ l', eraseAll key ks l = some l' := by
  induction ks generalizing l with
  | nil => exact ⟨l, rfl⟩
  | cons k ks ih =>
    obtain ⟨hk, hnd⟩ := List.nodup_cons.mp hnd
    have hsome : (erase key k l).isSome := by
      rw [erase_isSome, lookup_isSome h]
      exact hks k List.mem_cons_self
    obtain ⟨m, hm⟩ := Option.isSome_iff_exists.mp hsome
    obtain ⟨hasc, -, hmem⟩ := erase_spec h hm
    have hrest : ∀ j ∈ ks, ∃ a ∈ m, key a = j := by
      intro j hj
      obtain ⟨a, ha, rfl⟩ := hks j (List.mem_cons_of_mem k hj)
      exact ⟨a, (hmem a).mpr ⟨ha, fun hak => hk (hak ▸ hj)⟩, rfl⟩
    obtain ⟨l', hl'⟩ := ih hasc hnd hrest
    exact ⟨l', Option.bind_eq_some_iff.mpr ⟨m, hm, hl'⟩⟩

/-- Every key that was removed was there. -/
theorem eraseAll_present {ks : List κ} {l l' : List α} (h : Ascending key l)
    (he : eraseAll key ks l = some l') : ∀ k ∈ ks, ∃ a ∈ l, key a = k := by
  induction ks generalizing l with
  | nil => simp
  | cons k ks ih =>
    obtain ⟨m, hm, hrest⟩ := Option.bind_eq_some_iff.mp he
    obtain ⟨hasc, -, hmem⟩ := erase_spec h hm
    intro j hj
    rcases List.mem_cons.mp hj with rfl | hj
    · rw [← lookup_isSome h, ← erase_isSome]
      exact Option.isSome_of_mem hm
    · obtain ⟨a, ha, hkey⟩ := ih hasc hrest j hj
      exact ⟨a, ((hmem a).mp ha).1, hkey⟩

theorem insertAll_spec {xs l l' : List α} (h : Ascending key l)
    (hi : insertAll key xs l = some l') :
    Ascending key l' ∧ l'.length = l.length + xs.length ∧
      (∀ a, a ∈ l' ↔ a ∈ xs ∨ a ∈ l) := by
  induction xs generalizing l with
  | nil =>
    obtain rfl := Option.some.inj hi
    simp [h]
  | cons x xs ih =>
    obtain ⟨m, hm, hrest⟩ := Option.bind_eq_some_iff.mp hi
    obtain ⟨hasc, hlen, hmem⟩ := insert_spec h hm
    obtain ⟨hasc', hlen', hmem'⟩ := ih hasc hrest
    refine ⟨hasc', by simp only [List.length_cons]; omega, ?_⟩
    intro a
    simp only [hmem', hmem, List.mem_cons]
    tauto

/-- No entry that was inserted has the key of an old one. -/
theorem insertAll_fresh {xs l l' : List α} (h : Ascending key l)
    (hi : insertAll key xs l = some l') :
    ∀ x ∈ xs, ∀ a ∈ l, key a ≠ key x := by
  induction xs generalizing l with
  | nil => simp
  | cons x xs ih =>
    obtain ⟨m, hm, hrest⟩ := Option.bind_eq_some_iff.mp hi
    obtain ⟨hasc, -, hmem⟩ := insert_spec h hm
    intro y hy a ha
    rcases List.mem_cons.mp hy with rfl | hy
    · have hnone : lookup key (key y) l = none := by
        rw [← Option.isNone_iff_eq_none, ← insert_isSome]
        exact Option.isSome_of_mem hm
      exact (lookup_eq_none h).mp hnone a ha
    · exact ih hasc hrest y hy a ((hmem a).mpr (Or.inr ha))

theorem insertAll_exists {xs l : List α} (h : Ascending key l)
    (hnd : (xs.map key).Nodup)
    (hxs : ∀ x ∈ xs, ∀ a ∈ l, key a ≠ key x) :
    ∃ l', insertAll key xs l = some l' := by
  induction xs generalizing l with
  | nil => exact ⟨l, rfl⟩
  | cons x xs ih =>
    obtain ⟨hx, hnd⟩ := List.nodup_cons.mp hnd
    have hsome : (insert key x l).isSome := by
      rw [insert_isSome, Option.isNone_iff_eq_none, lookup_eq_none h]
      exact hxs x List.mem_cons_self
    obtain ⟨m, hm⟩ := Option.isSome_iff_exists.mp hsome
    obtain ⟨hasc, -, hmem⟩ := insert_spec h hm
    have hrest : ∀ y ∈ xs, ∀ a ∈ m, key a ≠ key y := by
      intro y hy a ha
      rcases (hmem a).mp ha with rfl | ha
      · exact fun hk => hx (List.mem_map.mpr ⟨y, hy, hk.symm⟩)
      · exact hxs y (List.mem_cons_of_mem x hy) a ha
    obtain ⟨l', hl'⟩ := ih hasc hnd hrest
    exact ⟨l', Option.bind_eq_some_iff.mpr ⟨m, hm, hl'⟩⟩

section Changes

variable {dkey : δ → κ} {app : δ → α → α}

theorem key_patch (happ : ∀ d a, key (app d a) = key a) (ds : List δ) (a : α) :
    key (patch key dkey app ds a) = key a := by
  induction ds generalizing a with
  | nil => rfl
  | cons d ds ih =>
    rw [patch, ih]
    split <;> simp [happ]

/-- What every change keeps, the list of changes keeps. -/
theorem patch_induct {P : α → Prop} {ds : List δ} {a : α} (ha : P a)
    (happ : ∀ d ∈ ds, ∀ b, P b → P (app d b)) :
    P (patch key dkey app ds a) := by
  induction ds generalizing a with
  | nil => exact ha
  | cons d ds ih =>
    rw [patch]
    refine ih ?_ fun e he => happ e (List.mem_cons_of_mem d he)
    split
    · exact happ d List.mem_cons_self a ha
    · exact ha

theorem patch_of_forall_ne {ds : List δ} {a : α} (h : ∀ d ∈ ds, dkey d ≠ key a) :
    patch key dkey app ds a = a := by
  induction ds with
  | nil => rfl
  | cons d ds ih =>
    simp only [List.mem_cons, forall_eq_or_imp] at h
    rw [patch, if_neg (Ne.symm h.1), ih h.2]

theorem patch_of_mem (happ : ∀ d a, key (app d a) = key a)
    {ds : List δ} (hnd : (ds.map dkey).Nodup) {d : δ} (hd : d ∈ ds) {a : α}
    (hk : key a = dkey d) : patch key dkey app ds a = app d a := by
  induction ds with
  | nil => simp at hd
  | cons e ds ih =>
    obtain ⟨he, hnd⟩ := List.nodup_cons.mp hnd
    rcases List.mem_cons.mp hd with rfl | hd
    · rw [patch, if_pos hk]
      apply patch_of_forall_ne
      intro c hc hck
      rw [happ, hk] at hck
      exact he (List.mem_map.mpr ⟨c, hc, hck⟩)
    · have hne : key a ≠ dkey e := by
        intro hae
        exact he (List.mem_map.mpr ⟨d, hd, by rw [← hk, hae]⟩)
      rw [patch, if_neg hne, ih hnd hd]

theorem modifyAll_spec (happ : ∀ d a, key (app d a) = key a)
    {ds : List δ} {l l' : List α} (h : Ascending key l)
    (hm : modifyAll key dkey app ds l = some l') :
    Ascending key l' ∧ l'.length = l.length ∧
      (∀ a, a ∈ l' ↔ ∃ b ∈ l, a = patch key dkey app ds b) := by
  induction ds generalizing l with
  | nil =>
    obtain rfl := Option.some.inj hm
    simp [h, patch]
  | cons d ds ih =>
    obtain ⟨m, hm, hrest⟩ := Option.bind_eq_some_iff.mp hm
    obtain ⟨hasc, hlen, hmem⟩ := modify_spec (happ d) h hm
    obtain ⟨hasc', hlen', hmem'⟩ := ih hasc hrest
    refine ⟨hasc', hlen'.trans hlen, ?_⟩
    intro a
    rw [hmem']
    constructor
    · rintro ⟨b, hb, rfl⟩
      obtain ⟨c, hc, rfl⟩ := (hmem b).mp hb
      exact ⟨c, hc, rfl⟩
    · rintro ⟨c, hc, rfl⟩
      exact ⟨_, (hmem _).mpr ⟨c, hc, rfl⟩, rfl⟩

theorem modifyAll_exists (happ : ∀ d a, key (app d a) = key a)
    {ds : List δ} {l : List α} (h : Ascending key l)
    (hds : ∀ d ∈ ds, ∃ a ∈ l, key a = dkey d) :
    ∃ l', modifyAll key dkey app ds l = some l' := by
  induction ds generalizing l with
  | nil => exact ⟨l, rfl⟩
  | cons d ds ih =>
    have hsome : (modify key (dkey d) (app d) l).isSome := by
      rw [modify_isSome, lookup_isSome h]
      exact hds d List.mem_cons_self
    obtain ⟨m, hm⟩ := Option.isSome_iff_exists.mp hsome
    obtain ⟨hasc, -, hmem⟩ := modify_spec (happ d) h hm
    have hrest : ∀ e ∈ ds, ∃ a ∈ m, key a = dkey e := by
      intro e he
      obtain ⟨a, ha, hk⟩ := hds e (List.mem_cons_of_mem d he)
      refine ⟨_, (hmem _).mpr ⟨a, ha, rfl⟩, ?_⟩
      split <;> simp [happ, hk]
    obtain ⟨l', hl'⟩ := ih hasc hrest
    exact ⟨l', Option.bind_eq_some_iff.mpr ⟨m, hm, hl'⟩⟩

end Changes

end KeyedList
