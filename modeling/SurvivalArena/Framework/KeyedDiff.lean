import SurvivalArena.Framework.KeyedList

/-!
# Differences of keyed lists

One merge pass over two lists in ascending key order splits their entries into
removed keys, entered entries and changes of the entries present in both.
Erasing, inserting and modifying by that difference turns the first list back
into the second.
-/

namespace KeyedList

variable {α κ δ ε : Type} [LinearOrder κ]

/-- What has to happen to the entries of one list to obtain another. -/
structure Diff (α κ δ : Type) where
  removed : List κ := []
  entered : List α := []
  changed : List δ := []
deriving DecidableEq

def Diff.remove (k : κ) (d : Diff α κ δ) : Diff α κ δ :=
  { d with removed := k :: d.removed }

def Diff.enter (a : α) (d : Diff α κ δ) : Diff α κ δ :=
  { d with entered := a :: d.entered }

def Diff.change (c : Option δ) (d : Diff α κ δ) : Diff α κ δ :=
  { d with changed := c.toList ++ d.changed }

/-- The part of the merge pass that faces the first entry of the base list. -/
def diffHead (key : α → κ) (delta : α → α → Except ε (Option δ)) (b : α)
    (tail : List α → Except ε (Diff α κ δ)) :
    List α → Except ε (Diff α κ δ)
  | [] => (tail []).map (Diff.remove (key b))
  | c :: cs =>
    if key b < key c then (tail (c :: cs)).map (Diff.remove (key b))
    else if key c < key b then
      (diffHead key delta b tail cs).map (Diff.enter c)
    else do
      let change ← delta b c
      (tail cs).map (Diff.change change)

/-- The merge pass over a base list and a current list. -/
def diff (key : α → κ) (delta : α → α → Except ε (Option δ)) :
    List α → List α → Except ε (Diff α κ δ)
  | [] => fun cs => .ok { entered := cs }
  | b :: bs => diffHead key delta b (diff key delta bs)

variable {key : α → κ} {delta : α → α → Except ε (Option δ)}

private theorem exceptMap_eq_ok {β γ : Type} {x : Except ε β} {f : β → γ} {c : γ} :
    x.map f = .ok c ↔ ∃ b, x = .ok b ∧ f b = c := by
  cases x <;> simp [Except.map]

private theorem exceptBind_eq_ok {β γ : Type} {x : Except ε β}
    {f : β → Except ε γ} {c : γ} :
    (x >>= f) = .ok c ↔ ∃ b, x = .ok b ∧ f b = .ok c := by
  cases x <;> simp [bind, Except.bind]

/-- Everything the merge pass reports, given both lists in ascending order. -/
structure IsDiff (key : α → κ) (delta : α → α → Except ε (Option δ))
    (base current : List α) (d : Diff α κ δ) : Prop where
  removed : ∀ k, k ∈ d.removed ↔
    (∃ b ∈ base, key b = k) ∧ ∀ c ∈ current, key c ≠ k
  entered : ∀ c, c ∈ d.entered ↔ c ∈ current ∧ ∀ b ∈ base, key b ≠ key c
  changed : ∀ x, x ∈ d.changed ↔
    ∃ b ∈ base, ∃ c ∈ current, key b = key c ∧ delta b c = .ok (some x)
  paired : ∀ b ∈ base, ∀ c ∈ current, key b = key c →
    ∃ change, delta b c = .ok change

private theorem isDiff_remove {b : α} {bs cs : List α} {d : Diff α κ δ}
    (hne : ∀ c ∈ cs, key b < key c) (hd : IsDiff key delta bs cs d) :
    IsDiff key delta (b :: bs) cs (d.remove (key b)) where
  removed k := by
    simp only [Diff.remove, List.mem_cons, hd.removed, exists_eq_or_imp]
    constructor
    · rintro (rfl | ⟨hb, hc⟩)
      · exact ⟨Or.inl rfl, fun c hc => (hne c hc).ne'⟩
      · exact ⟨Or.inr hb, hc⟩
    · rintro ⟨rfl | hb, hc⟩
      · exact Or.inl rfl
      · exact Or.inr ⟨hb, hc⟩
  entered c := by
    simp only [Diff.remove, hd.entered, List.forall_mem_cons]
    constructor
    · rintro ⟨hc, hall⟩
      exact ⟨hc, (hne c hc).ne, hall⟩
    · rintro ⟨hc, -, hall⟩
      exact ⟨hc, hall⟩
  changed x := by
    simp only [Diff.remove, hd.changed, List.mem_cons, exists_eq_or_imp]
    constructor
    · exact Or.inr
    · rintro (⟨c, hc, hk, -⟩ | h)
      · exact ((hne c hc).ne hk).elim
      · exact h
  paired := by
    intro b' hb' c hc hk
    rcases List.mem_cons.mp hb' with rfl | hb'
    · exact ((hne c hc).ne hk).elim
    · exact hd.paired b' hb' c hc hk

private theorem isDiff_enter {c : α} {bs cs : List α} {d : Diff α κ δ}
    (hne : ∀ b ∈ bs, key c < key b) (hd : IsDiff key delta bs cs d) :
    IsDiff key delta bs (c :: cs) (d.enter c) where
  removed k := by
    simp only [Diff.enter, hd.removed, List.forall_mem_cons]
    constructor
    · rintro ⟨⟨b, hb, rfl⟩, hall⟩
      exact ⟨⟨b, hb, rfl⟩, (hne b hb).ne, hall⟩
    · rintro ⟨hb, -, hall⟩
      exact ⟨hb, hall⟩
  entered e := by
    simp only [Diff.enter, List.mem_cons, hd.entered]
    constructor
    · rintro (rfl | ⟨he, hall⟩)
      · exact ⟨Or.inl rfl, fun b hb => (hne b hb).ne'⟩
      · exact ⟨Or.inr he, hall⟩
    · rintro ⟨rfl | he, hall⟩
      · exact Or.inl rfl
      · exact Or.inr ⟨he, hall⟩
  changed x := by
    simp only [Diff.enter, hd.changed, List.mem_cons, exists_eq_or_imp]
    constructor
    · rintro ⟨b, hb, c', hc', h⟩
      exact ⟨b, hb, Or.inr ⟨c', hc', h⟩⟩
    · rintro ⟨b, hb, ⟨hk, -⟩ | ⟨c', hc', h⟩⟩
      · exact ((hne b hb).ne' hk).elim
      · exact ⟨b, hb, c', hc', h⟩
  paired := by
    intro b hb c' hc' hk
    rcases List.mem_cons.mp hc' with rfl | hc'
    · exact ((hne b hb).ne' hk).elim
    · exact hd.paired b hb c' hc' hk

private theorem isDiff_change {b c : α} {bs cs : List α} {d : Diff α κ δ}
    {change : Option δ} (hk : key b = key c)
    (hbs : ∀ b' ∈ bs, key b < key b') (hcs : ∀ c' ∈ cs, key c < key c')
    (hdelta : delta b c = .ok change) (hd : IsDiff key delta bs cs d) :
    IsDiff key delta (b :: bs) (c :: cs) (d.change change) where
  removed k := by
    simp only [Diff.change, hd.removed, List.mem_cons, exists_eq_or_imp,
      forall_eq_or_imp]
    constructor
    · rintro ⟨⟨b', hb', rfl⟩, hall⟩
      exact ⟨Or.inr ⟨b', hb', rfl⟩, (hk ▸ hbs b' hb').ne, hall⟩
    · rintro ⟨rfl | hb', hne, hall⟩
      · exact (hne hk.symm).elim
      · exact ⟨hb', hall⟩
  entered e := by
    simp only [Diff.change, hd.entered, List.mem_cons, forall_eq_or_imp]
    constructor
    · rintro ⟨he, hall⟩
      exact ⟨Or.inr he, (hk ▸ hcs e he).ne, hall⟩
    · rintro ⟨rfl | he, hne, hall⟩
      · exact (hne hk).elim
      · exact ⟨he, hall⟩
  changed x := by
    simp only [Diff.change, List.mem_append, Option.mem_toList, hd.changed,
      List.mem_cons, exists_eq_or_imp]
    constructor
    · rintro (rfl | ⟨b', hb', c', hc', h⟩)
      · exact Or.inl (Or.inl ⟨hk, hdelta⟩)
      · exact Or.inr ⟨b', hb', Or.inr ⟨c', hc', h⟩⟩
    · rintro ((⟨-, h⟩ | ⟨c', hc', hk', -⟩) | ⟨b', hb', ⟨hk', -⟩ | h⟩)
      · rw [hdelta] at h
        exact Or.inl (Except.ok.inj h)
      · exact ((hcs c' hc').ne (hk ▸ hk')).elim
      · exact ((hbs b' hb').ne' (hk'.trans hk.symm)).elim
      · exact Or.inr ⟨b', hb', h⟩
  paired := by
    intro b' hb' c' hc' hk'
    rcases List.mem_cons.mp hb' with rfl | hb' <;>
      rcases List.mem_cons.mp hc' with rfl | hc'
    · exact ⟨change, hdelta⟩
    · exact ((hcs c' hc').ne (hk ▸ hk')).elim
    · exact ((hbs b' hb').ne' (hk'.trans hk.symm)).elim
    · exact hd.paired b' hb' c' hc' hk'

theorem diff_isDiff {base current : List α} {d : Diff α κ δ}
    (hb : Ascending key base) (hc : Ascending key current)
    (h : diff key delta base current = .ok d) :
    IsDiff key delta base current d := by
  induction base generalizing current d with
  | nil =>
    obtain rfl := Except.ok.inj h
    constructor <;> simp
  | cons b bs ihb =>
    obtain ⟨hbs, hbase⟩ := ascending_cons.mp hb
    rw [diff] at h
    induction current generalizing d with
    | nil =>
      obtain ⟨d', hd', rfl⟩ := exceptMap_eq_ok.mp h
      exact isDiff_remove (by simp) (ihb hbase hc hd')
    | cons c cs ihc =>
      obtain ⟨hcs, hcur⟩ := ascending_cons.mp hc
      rw [diffHead] at h
      split_ifs at h with hlt hgt
      · obtain ⟨d', hd', rfl⟩ := exceptMap_eq_ok.mp h
        refine isDiff_remove ?_ (ihb hbase hc hd')
        simpa [hlt] using fun c' hc' => hlt.trans (hcs c' hc')
      · obtain ⟨d', hd', rfl⟩ := exceptMap_eq_ok.mp h
        refine isDiff_enter ?_ (ihc hcur hd')
        simpa [hgt] using fun b' hb' => hgt.trans (hbs b' hb')
      · obtain ⟨change, hdelta, hrest⟩ := exceptBind_eq_ok.mp h
        obtain ⟨d', hd', rfl⟩ := exceptMap_eq_ok.mp hrest
        have hk : key b = key c := le_antisymm (not_lt.mp hgt) (not_lt.mp hlt)
        exact isDiff_change hk hbs hcs hdelta (ihb hbase hcur hd')

/-- The pass succeeds when every pair of entries with one key has a change. -/
theorem diff_exists {base current : List α}
    (hpair : ∀ b ∈ base, ∀ c ∈ current, key b = key c →
      ∃ change, delta b c = .ok change) :
    ∃ d, diff key delta base current = .ok d := by
  induction base generalizing current with
  | nil => exact ⟨_, rfl⟩
  | cons b bs ihb =>
    have hbs : ∀ cs : List α, (∀ c ∈ cs, c ∈ current) →
        ∃ d, diff key delta bs cs = .ok d := by
      intro cs hsub
      exact ihb fun b' hb' c hc =>
        hpair b' (List.mem_cons_of_mem b hb') c (hsub c hc)
    rw [diff]
    induction current with
    | nil =>
      obtain ⟨d, hd⟩ := hbs [] (by simp)
      exact ⟨_, exceptMap_eq_ok.mpr ⟨d, hd, rfl⟩⟩
    | cons c cs ihc =>
      rw [diffHead]
      split_ifs with hlt hgt
      · obtain ⟨d, hd⟩ := hbs (c :: cs) (fun _ h => h)
        exact ⟨_, exceptMap_eq_ok.mpr ⟨d, hd, rfl⟩⟩
      · obtain ⟨d, hd⟩ := ihc
          (fun b' hb' c' hc' => hpair b' hb' c' (List.mem_cons_of_mem c hc'))
          (fun cs' hsub => hbs cs' fun c' hc' =>
            List.mem_cons_of_mem c (hsub c' hc'))
        exact ⟨_, exceptMap_eq_ok.mpr ⟨d, hd, rfl⟩⟩
      · have hk : key b = key c := le_antisymm (not_lt.mp hgt) (not_lt.mp hlt)
        obtain ⟨change, hdelta⟩ :=
          hpair b List.mem_cons_self c List.mem_cons_self hk
        obtain ⟨d, hd⟩ := hbs cs fun c' hc' => List.mem_cons_of_mem c hc'
        exact ⟨_, exceptBind_eq_ok.mpr ⟨change, hdelta, exceptMap_eq_ok.mpr ⟨d, hd, rfl⟩⟩⟩

/-- The three parts follow the order of the two lists. -/
theorem diff_sublists {base current : List α} {d : Diff α κ δ}
    {dkey : δ → κ}
    (hkey : ∀ b c x, delta b c = .ok (some x) → dkey x = key c)
    (h : diff key delta base current = .ok d) :
    List.Sublist d.removed (base.map key) ∧
      List.Sublist d.entered current ∧
      List.Sublist (d.changed.map dkey) (current.map key) := by
  induction base generalizing current d with
  | nil =>
    obtain rfl := Except.ok.inj h
    exact ⟨List.Sublist.refl _, List.Sublist.refl _, List.nil_sublist _⟩
  | cons b bs ihb =>
    rw [diff] at h
    induction current generalizing d with
    | nil =>
      obtain ⟨d', hd', rfl⟩ := exceptMap_eq_ok.mp h
      obtain ⟨h1, h2, h3⟩ := ihb hd'
      exact ⟨h1.cons_cons _, h2, h3⟩
    | cons c cs ihc =>
      rw [diffHead] at h
      split_ifs at h with hlt hgt
      · obtain ⟨d', hd', rfl⟩ := exceptMap_eq_ok.mp h
        obtain ⟨h1, h2, h3⟩ := ihb hd'
        exact ⟨h1.cons_cons _, h2, h3⟩
      · obtain ⟨d', hd', rfl⟩ := exceptMap_eq_ok.mp h
        obtain ⟨h1, h2, h3⟩ := ihc hd'
        exact ⟨h1, h2.cons_cons _, h3.cons _⟩
      · obtain ⟨change, hdelta, hrest⟩ := exceptBind_eq_ok.mp h
        obtain ⟨d', hd', rfl⟩ := exceptMap_eq_ok.mp hrest
        obtain ⟨h1, h2, h3⟩ := ihb hd'
        refine ⟨h1.cons _, h2.cons _, ?_⟩
        cases change with
        | none => exact h3.cons _
        | some x =>
          have hx : dkey x = key c := hkey b c x hdelta
          simpa [Diff.change, hx] using h3

section Apply

variable {dkey : δ → κ} {app : δ → α → α}

/-- Erasing, inserting and modifying by the difference restores the current
list. -/
theorem apply_diff {base current : List α} {d : Diff α κ δ}
    (hb : Ascending key base) (hc : Ascending key current)
    (happ : ∀ x a, key (app x a) = key a)
    (hnone : ∀ b c, key b = key c → delta b c = .ok none → b = c)
    (hkey : ∀ b c x, delta b c = .ok (some x) → dkey x = key c)
    (hsome : ∀ b c x, key b = key c → delta b c = .ok (some x) → app x b = c)
    (h : diff key delta base current = .ok d) :
    ∃ l₁ l₂, eraseAll key d.removed base = some l₁ ∧
      insertAll key d.entered l₁ = some l₂ ∧
      modifyAll key dkey app d.changed l₂ = some current := by
  have hd := diff_isDiff hb hc h
  obtain ⟨hrem, hent, hchg⟩ := diff_sublists hkey h
  have hcnd := hc.nodup_keys
  obtain ⟨l₁, h₁⟩ := eraseAll_exists hb
    (hb.nodup_keys.sublist hrem) fun k hk => ((hd.removed k).mp hk).1
  obtain ⟨ha₁, -, hm₁⟩ := eraseAll_spec hb h₁
  obtain ⟨l₂, h₂⟩ := insertAll_exists ha₁
    (hcnd.sublist (hent.map key))
    (fun x hx a ha => ((hd.entered x).mp hx).2 a ((hm₁ a).mp ha).1)
  obtain ⟨ha₂, -, hm₂⟩ := insertAll_spec ha₁ h₂
  have hmem₂ : ∀ a, a ∈ l₂ ↔
      (a ∈ current ∧ ∀ b ∈ base, key b ≠ key a) ∨
        (a ∈ base ∧ ∃ c ∈ current, key c = key a) := by
    intro a
    rw [hm₂, hd.entered, hm₁, hd.removed]
    refine or_congr Iff.rfl (and_congr_right fun ha => ?_)
    constructor
    · intro hn
      by_contra hall
      push Not at hall
      exact hn ⟨⟨a, ha, rfl⟩, hall⟩
    · rintro ⟨c, hc', hk⟩ ⟨-, hall⟩
      exact hall c hc' hk
  have htarget : ∀ x ∈ d.changed, ∃ a ∈ l₂, key a = dkey x := by
    intro x hx
    obtain ⟨b, hb', c, hc', hk, hdelta⟩ := (hd.changed x).mp hx
    exact ⟨b, (hmem₂ b).mpr (Or.inr ⟨hb', c, hc', hk.symm⟩),
      by rw [hkey b c x hdelta, hk]⟩
  obtain ⟨l₃, h₃⟩ := modifyAll_exists happ ha₂ htarget
  obtain ⟨ha₃, -, hm₃⟩ := modifyAll_spec happ ha₂ h₃
  -- A key of both lists has exactly one candidate change: the one of its pair.
  have hpatch : ∀ b ∈ base, ∀ c ∈ current, key b = key c →
      patch key dkey app d.changed b = c := by
    intro b hb' c hc' hk
    obtain ⟨change, hdelta⟩ := hd.paired b hb' c hc' hk
    have honly : ∀ x ∈ d.changed, dkey x = key c →
        delta b c = .ok (some x) := by
      intro x hx hxk
      obtain ⟨b', hb'', c', hc'', hk', hdelta'⟩ := (hd.changed x).mp hx
      have hcc : c' = c := List.inj_on_of_nodup_map hcnd hc'' hc'
        (by rw [← hkey b' c' x hdelta', hxk])
      have hbb : b' = b := List.inj_on_of_nodup_map hb.nodup_keys hb'' hb'
        (by rw [hk', hcc, hk])
      rwa [hcc, hbb] at hdelta'
    cases change with
    | none =>
      rw [patch_of_forall_ne, hnone b c hk hdelta]
      intro x hx hxk
      have := honly x hx (hxk.trans hk)
      simp [hdelta] at this
    | some x =>
      have hx : x ∈ d.changed := (hd.changed x).mpr ⟨b, hb', c, hc', hk, hdelta⟩
      rw [patch_of_mem happ (hcnd.sublist hchg) hx
        (by rw [hkey b c x hdelta, hk]), hsome b c x hk hdelta]
  have hfresh : ∀ c ∈ current, (∀ b ∈ base, key b ≠ key c) →
      patch key dkey app d.changed c = c := by
    intro c hc' hall
    apply patch_of_forall_ne
    intro x hx hxk
    obtain ⟨b, hb', c', hc'', hk, hdelta⟩ := (hd.changed x).mp hx
    exact hall b hb' (by rw [hk, ← hkey b c' x hdelta, hxk])
  have hsame : l₃ = current := by
    have hperm : List.Perm l₃ current := by
      refine (List.perm_ext_iff_of_nodup (List.Nodup.of_map key ha₃.nodup_keys)
        (List.Nodup.of_map key hcnd)).mpr fun a => ?_
      rw [hm₃]
      constructor
      · rintro ⟨b, hb', rfl⟩
        rcases (hmem₂ b).mp hb' with ⟨hbc, hall⟩ | ⟨hbb, c, hc', hk⟩
        · rwa [hfresh b hbc hall]
        · rwa [hpatch b hbb c hc' hk.symm]
      · intro ha
        by_cases hall : ∀ b ∈ base, key b ≠ key a
        · exact ⟨a, (hmem₂ a).mpr (Or.inl ⟨ha, hall⟩), (hfresh a ha hall).symm⟩
        · push Not at hall
          obtain ⟨b, hb', hk⟩ := hall
          exact ⟨b, (hmem₂ b).mpr (Or.inr ⟨hb', a, ha, hk.symm⟩),
            (hpatch b hb' a ha hk).symm⟩
    exact hperm.eq_of_pairwise
      (fun a b _ _ hab hba => (lt_asymm hab hba).elim) ha₃ hc
  exact ⟨l₁, l₂, h₁, h₂, hsame ▸ h₃⟩

/-- No key occurs twice in a difference. -/
theorem diff_nodup {base current : List α} {d : Diff α κ δ}
    (hb : Ascending key base) (hc : Ascending key current)
    (hkey : ∀ b c x, delta b c = .ok (some x) → dkey x = key c)
    (h : diff key delta base current = .ok d) :
    (d.entered.map key ++ d.changed.map dkey ++ d.removed).Nodup := by
  have hd := diff_isDiff hb hc h
  obtain ⟨hrem, hent, hchg⟩ := diff_sublists hkey h
  have hcnd := hc.nodup_keys
  rw [List.nodup_append, List.nodup_append]
  refine ⟨⟨hcnd.sublist (hent.map key), hcnd.sublist hchg, ?_⟩,
    hb.nodup_keys.sublist hrem, ?_⟩
  · rintro k hk j hj rfl
    obtain ⟨a, ha, rfl⟩ := List.mem_map.mp hk
    obtain ⟨x, hx, hxk⟩ := List.mem_map.mp hj
    obtain ⟨b, hb', c, hc', hbc, hdelta⟩ := (hd.changed x).mp hx
    exact ((hd.entered a).mp ha).2 b hb' (by rw [hbc, ← hkey b c x hdelta, hxk])
  · rintro k hk j hj rfl
    have hnone := ((hd.removed k).mp hj).2
    rcases List.mem_append.mp hk with hk | hk
    · exact (List.mem_map.mp hk).elim fun a ⟨ha, hak⟩ =>
        hnone a ((hd.entered a).mp ha).1 hak
    · obtain ⟨c, hc', hck⟩ := List.mem_map.mp (hchg.subset hk)
      exact hnone c hc' hck

/-- A difference has at most as many records as the two lists have keys. -/
theorem diff_length_le {base current : List α} {d : Diff α κ δ}
    (hb : Ascending key base) (hc : Ascending key current)
    (hkey : ∀ b c x, delta b c = .ok (some x) → dkey x = key c)
    (h : diff key delta base current = .ok d) :
    d.entered.length + d.changed.length + d.removed.length ≤
      ((base.map key).toFinset ∪ (current.map key).toFinset).card := by
  obtain ⟨hrem, hent, hchg⟩ := diff_sublists hkey h
  have hnd := diff_nodup hb hc hkey h
  have hcard := List.toFinset_card_of_nodup hnd
  simp only [List.length_append, List.length_map] at hcard
  rw [← hcard]
  apply Finset.card_le_card
  intro k hk
  simp only [List.mem_toFinset, List.mem_append, Finset.mem_union] at hk ⊢
  rcases hk with (hk | hk) | hk
  · exact Or.inr ((hent.map key).subset hk)
  · exact Or.inr (hchg.subset hk)
  · exact Or.inl (hrem.subset hk)

end Apply

end KeyedList
