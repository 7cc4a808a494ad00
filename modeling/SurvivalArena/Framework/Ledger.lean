import SurvivalArena.Framework.Machine

/-!
# Ledgers of keys

Names hold keys, and the keys that are stored have a record each.  Records may
expire; a key is drawn once and is held by at most one name.
-/

structure Ledger (ν κ ρ : Type) where
  held : ν → κ → Prop
  stored : κ → Option ρ
  drawn : κ → Prop

namespace Ledger

variable {ν κ ρ : Type}

/-- Stored keys are held by the owner of their record, and no two names hold the
same key. -/
structure Sound (owner : ρ → ν) (ledger : Ledger ν κ ρ) : Prop where
  stored : ∀ key record, ledger.stored key = some record →
    ledger.held (owner record) key
  drawn : ∀ name key, ledger.held name key → ledger.drawn key
  unique : ∀ first second key, ledger.held first key → ledger.held second key →
    first = second

/-- New keys are stored, and a stored key that is still held goes only if its
record has expired. -/
structure Step (expired : ρ → Prop) (before after : Ledger ν κ ρ) : Prop where
  drawn : ∀ key, before.drawn key → after.drawn key
  new : ∀ name key, after.held name key → before.held name key ∨
    ¬before.drawn key ∧ ∃ record, after.stored key = some record ∧ ¬expired record
  kept : ∀ name key record, before.stored key = some record →
    after.held name key → after.stored key = some record ∨ expired record

variable {owner : ρ → ν} {expired : ρ → Prop}

theorem Step.refl (ledger : Ledger ν κ ρ) : Step expired ledger ledger where
  drawn _ h := h
  new _ _ h := Or.inl h
  kept _ _ _ h _ := Or.inl h

theorem Step.trans {before middle after : Ledger ν κ ρ} (hbefore : Sound owner before)
    (h : Step expired before middle) (hnext : Step expired middle after) :
    Step expired before after where
  drawn key hdrawn := hnext.drawn key (h.drawn key hdrawn)
  new := by
    intro name key hheld
    rcases hnext.new name key hheld with hmiddle | ⟨hfresh, hstored⟩
    · rcases h.new name key hmiddle with hbefore | ⟨hfresh, record, hstored, hvalid⟩
      · exact Or.inl hbefore
      · rcases hnext.kept name key record hstored hheld with hafter | hexpired
        · exact Or.inr ⟨hfresh, record, hafter, hvalid⟩
        · exact absurd hexpired hvalid
    · exact Or.inr ⟨fun hdrawn => hfresh (h.drawn key hdrawn), hstored⟩
  kept := by
    intro name key record hstored hheld
    rcases hnext.new name key hheld with hmiddle | ⟨hfresh, other, hafter, hvalid⟩
    · rcases h.kept name key record hstored hmiddle with hstored | hexpired
      · exact hnext.kept name key record hstored hheld
      · exact Or.inr hexpired
    · have hdrawn := hbefore.drawn _ key (hbefore.stored key record hstored)
      exact absurd (h.drawn key hdrawn) hfresh

/-- The keys of a name that ended are not stored any more. -/
theorem Step.ended {before after : Ledger ν κ ρ} (h : Step expired before after)
    (hbefore : Sound owner before) (hafter : Sound owner after) {name : ν} {key : κ}
    (hheld : before.held name key) (hended : ¬after.held name key) :
    after.stored key = none := by
  cases hstored : after.stored key with
  | none => rfl
  | some record =>
    have howner := hafter.stored key record hstored
    rcases h.new (owner record) key howner with hother | ⟨hfresh, -⟩
    · rw [hbefore.unique _ _ key hother hheld] at howner
      exact absurd howner hended
    · exact absurd (hbefore.drawn name key hheld) hfresh

/-! ## Kinds of steps -/

/-- The holders stay and some expired records go. -/
theorem purged {before after : Ledger ν κ ρ} (h : Sound owner before)
    (hheld : after.held = before.held)
    (hdrawn : ∀ key, before.drawn key → after.drawn key)
    (hstored : ∀ key record, after.stored key = some record →
      before.stored key = some record)
    (hkept : ∀ key record, before.stored key = some record →
      after.stored key = some record ∨ expired record) :
    Sound owner after ∧ Step expired before after := by
  refine ⟨⟨?_, ?_, ?_⟩, hdrawn, ?_, ?_⟩
  · intro key record hafter
    rw [hheld]
    exact h.stored key record (hstored key record hafter)
  · intro name key hname
    rw [hheld] at hname
    exact hdrawn key (h.drawn name key hname)
  · rw [hheld]
    exact h.unique
  · intro name key hname
    rw [hheld] at hname
    exact Or.inl hname
  · exact fun _ key record hbefore _ => hkept key record hbefore

/-- A new name gets keys that were never drawn before. -/
theorem opened {before after : Ledger ν κ ρ} (h : Sound owner before) (name : ν)
    (new : κ → Prop) (hfresh : ∀ key, new key → ¬before.drawn key)
    (hheld : ∀ other key, after.held other key ↔
      before.held other key ∨ other = name ∧ new key)
    (hdrawn : ∀ key, before.drawn key ∨ new key → after.drawn key)
    (hnew : ∀ key, new key → ∃ record, after.stored key = some record ∧
      owner record = name ∧ ¬expired record)
    (hstored : ∀ key record, ¬new key → after.stored key = some record →
      before.stored key = some record)
    (hkept : ∀ key record, ¬new key → before.stored key = some record →
      after.stored key = some record ∨ expired record) :
    Sound owner after ∧ Step expired before after := by
  refine ⟨⟨?_, ?_, ?_⟩, fun key hkey => hdrawn key (Or.inl hkey), ?_, ?_⟩
  · intro key record hafter
    by_cases hkey : new key
    · obtain ⟨other, hother, howner, -⟩ := hnew key hkey
      obtain rfl := Option.some.inj (hother.symm.trans hafter)
      exact (hheld _ key).mpr (Or.inr ⟨howner, hkey⟩)
    · exact (hheld _ key).mpr (Or.inl (h.stored key record (hstored key record hkey hafter)))
  · intro other key hother
    rcases (hheld other key).mp hother with hbefore | ⟨-, hkey⟩
    · exact hdrawn key (Or.inl (h.drawn other key hbefore))
    · exact hdrawn key (Or.inr hkey)
  · intro first second key hfirst hsecond
    rcases (hheld first key).mp hfirst with hone | ⟨rfl, hone⟩
    · rcases (hheld second key).mp hsecond with htwo | ⟨-, htwo⟩
      · exact h.unique first second key hone htwo
      · exact absurd (h.drawn first key hone) (hfresh key htwo)
    · rcases (hheld second key).mp hsecond with htwo | ⟨rfl, -⟩
      · exact absurd (h.drawn second key htwo) (hfresh key hone)
      · rfl
  · intro other key hother
    rcases (hheld other key).mp hother with hbefore | ⟨-, hkey⟩
    · exact Or.inl hbefore
    · obtain ⟨record, hrecord, -, hvalid⟩ := hnew key hkey
      exact Or.inr ⟨hfresh key hkey, record, hrecord, hvalid⟩
  · intro other key record hbefore hother
    have hkey : ¬new key := fun hkey => hfresh key hkey
      (h.drawn _ key (h.stored key record hbefore))
    exact hkept key record hkey hbefore

/-- A name ends and its keys are removed. -/
theorem closed {before after : Ledger ν κ ρ} (h : Sound owner before) (name : ν)
    (hheld : ∀ other key, after.held other key ↔ before.held other key ∧ other ≠ name)
    (hdrawn : ∀ key, before.drawn key → after.drawn key)
    (hremoved : ∀ key, before.held name key → after.stored key = none)
    (hothers : ∀ key, ¬before.held name key → after.stored key = before.stored key) :
    Sound owner after ∧ Step expired before after := by
  refine ⟨⟨?_, ?_, ?_⟩, hdrawn, ?_, ?_⟩
  · intro key record hafter
    by_cases hkey : before.held name key
    · rw [hremoved key hkey] at hafter
      cases hafter
    · rw [hothers key hkey] at hafter
      have howner := h.stored key record hafter
      exact (hheld _ key).mpr ⟨howner, fun heq => hkey (heq ▸ howner)⟩
  · intro other key hother
    exact hdrawn key (h.drawn other key ((hheld other key).mp hother).1)
  · intro first second key hfirst hsecond
    exact h.unique first second key ((hheld first key).mp hfirst).1
      ((hheld second key).mp hsecond).1
  · intro other key hother
    exact Or.inl ((hheld other key).mp hother).1
  · intro other key record hbefore hother
    obtain ⟨hother, hne⟩ := (hheld other key).mp hother
    have hkey : ¬before.held name key := fun hname =>
      hne (h.unique other name key hother hname)
    exact Or.inl ((hothers key hkey).trans hbefore)

/-! ## Runs -/

/-- A held key that is not stored was lost when its record had expired. -/
theorem run_lost {σ ε : Type} {step : σ → ε → σ} (ledger : σ → Ledger ν κ ρ)
    (expired : ε → ρ → Prop) {state : σ}
    (hsound : ∀ events, Sound owner (ledger (Machine.run step state events)))
    (hstep : ∀ events event, Step (expired event)
      (ledger (Machine.run step state events))
      (ledger (Machine.run step state (events ++ [event]))))
    (hnone : ∀ name key, ¬(ledger state).held name key) (events : List ε) (name : ν)
    (key : κ) (hheld : (ledger (Machine.run step state events)).held name key) :
    (∃ record, (ledger (Machine.run step state events)).stored key = some record ∧
      owner record = name) ∨
    ∃ earlier event rest record, events = earlier ++ event :: rest ∧
      (ledger (Machine.run step state earlier)).stored key = some record ∧
      owner record = name ∧ expired event record := by
  induction events using List.reverseRecOn with
  | nil => exact absurd hheld (hnone name key)
  | append_singleton events event ih =>
    have hnext := hsound (events ++ [event])
    rcases (hstep events event).new name key hheld with hbefore | ⟨-, record, hrecord, -⟩
    · rcases ih hbefore with ⟨record, hrecord, howner⟩ | hlost
      · rcases (hstep events event).kept name key record hrecord hheld with hkept | hexpired
        · exact Or.inl ⟨record, hkept, howner⟩
        · exact Or.inr ⟨events, event, [], record, rfl, hrecord, howner, hexpired⟩
      · obtain ⟨earlier, other, rest, record, rfl, hlost⟩ := hlost
        exact Or.inr ⟨earlier, other, rest ++ [event], record, by simp, hlost⟩
    · exact Or.inl ⟨record, hrecord, hnext.unique _ _ key
        (hnext.stored key record hrecord) hheld⟩

end Ledger
