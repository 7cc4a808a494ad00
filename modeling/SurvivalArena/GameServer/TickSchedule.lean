import SurvivalArena.Framework.Machine
import SurvivalArena.GameServer.AuthoritativeMatch

/-!
# The schedule of the ticks

Tick `k` is due a floored `k`-th part of a second after the epoch.  Whatever way the calls
split the time, the ticks that were issued are those that have come due.
-/

namespace SurvivalArena

open Machine

/-- The values of the time points of the source. -/
def Representable (time : Int) : Prop :=
  -2 ^ 63 ≤ time ∧ time < 2 ^ 63

instance (time : Int) : Decidable (Representable time) :=
  inferInstanceAs (Decidable (_ ∧ _))

/-! ## Deadlines -/

/-- The nanoseconds from the epoch to the deadline of a tick. -/
def tickOffset (rate : UInt32) (ordinal : Nat) : Nat :=
  ordinal * 1000000000 / rate.toNat

/-- The ticks that have come due. -/
def dueTicks (rate : UInt32) (epoch now : Int) : Set Nat :=
  {ordinal | 1 ≤ ordinal ∧ epoch + tickOffset rate ordinal ≤ now}

/-- How many ticks have come due. -/
def dueCount (rate : UInt32) (epoch now : Int) : Nat :=
  if now < epoch then 0
  else (((now - epoch).toNat + 1) * rate.toNat - 1) / 1000000000

section Deadlines

variable {rate : UInt32} {epoch now : Int}

/-- The whole seconds and the rest of a second together. -/
theorem tickOffset_split (ordinal : Nat) (hrate : 0 < rate.toNat) :
    ordinal / rate.toNat * 1000000000 + 1000000000 * (ordinal % rate.toNat) / rate.toNat =
      tickOffset rate ordinal := by
  have hsplit : ordinal * 1000000000 =
      1000000000 * (ordinal % rate.toNat) + ordinal / rate.toNat * 1000000000 * rate.toNat := by
    conv_lhs => rw [← Nat.mod_add_div ordinal rate.toNat]
    ring
  rw [tickOffset, hsplit, Nat.add_mul_div_right _ _ hrate, Nat.add_comm]

/-- From one deadline to the next it is a second at most. -/
theorem tickOffset_succ_le (ordinal : Nat) (hrate : 0 < rate.toNat) :
    tickOffset rate (ordinal + 1) ≤ tickOffset rate ordinal + 1000000000 := by
  rw [tickOffset, Nat.add_mul, Nat.one_mul]
  calc (ordinal * 1000000000 + 1000000000) / rate.toNat
      ≤ (ordinal * 1000000000 + 1000000000 * rate.toNat) / rate.toNat :=
        Nat.div_le_div_right (Nat.add_le_add_left (Nat.le_mul_of_pos_right _ hrate) _)
    _ = tickOffset rate ordinal + 1000000000 := by
        rw [Nat.add_mul_div_right _ _ hrate]
        rfl

theorem due_iff (epoch now : Int) (hrate : 0 < rate.toNat) {ordinal : Nat}
    (hpos : 1 ≤ ordinal) :
    epoch + tickOffset rate ordinal ≤ now ↔ ordinal ≤ dueCount rate epoch now := by
  unfold dueCount
  split
  next hbefore => omega
  next hafter =>
    obtain ⟨elapsed, helapsed⟩ : ∃ elapsed : Nat, now = epoch + elapsed :=
      ⟨(now - epoch).toNat, by omega⟩
    have hnat : (now - epoch).toNat = elapsed := by omega
    have hoffset : tickOffset rate ordinal ≤ elapsed ↔
        ordinal * 1000000000 < (elapsed + 1) * rate.toNat := by
      rw [tickOffset, ← Nat.lt_succ_iff, Nat.div_lt_iff_lt_mul hrate]
    have hone : 1 ≤ (elapsed + 1) * rate.toNat := Nat.mul_pos elapsed.succ_pos hrate
    rw [hnat, Nat.le_div_iff_mul_le (by decide)]
    constructor
    · intro h
      have := hoffset.mp (by omega)
      omega
    · intro h
      have := hoffset.mpr (by omega)
      omega

theorem dueTicks_eq (hrate : 0 < rate.toNat) :
    dueTicks rate epoch now = Set.Icc 1 (dueCount rate epoch now) := by
  ext ordinal
  constructor
  · rintro ⟨hpos, hdue⟩
    exact ⟨hpos, (due_iff _ _ hrate hpos).mp hdue⟩
  · rintro ⟨hpos, hcount⟩
    exact ⟨hpos, (due_iff _ _ hrate hpos).mpr hcount⟩

theorem dueTicks_ncard (hrate : 0 < rate.toNat) :
    (dueTicks rate epoch now).ncard = dueCount rate epoch now := by
  rw [dueTicks_eq hrate, ← Finset.coe_Icc, Set.ncard_coe_finset, Nat.card_Icc,
    Nat.add_sub_cancel]

theorem dueCount_mono (hrate : 0 < rate.toNat) {later : Int} (h : now ≤ later) :
    dueCount rate epoch now ≤ dueCount rate epoch later := by
  rcases Nat.eq_zero_or_pos (dueCount rate epoch now) with hnone | hpos
  · omega
  · exact (due_iff _ _ hrate hpos).mp (((due_iff _ _ hrate hpos).mpr le_rfl).trans h)

/-- From a later epoch fewer ticks have come due. -/
theorem dueCount_anti (now : Int) (hrate : 0 < rate.toNat) {later : Int} (h : epoch ≤ later) :
    dueCount rate later now ≤ dueCount rate epoch now := by
  rcases Nat.eq_zero_or_pos (dueCount rate later now) with hnone | hpos
  · omega
  · have hdue := (due_iff later now hrate hpos).mpr le_rfl
    exact (due_iff _ _ hrate hpos).mp (by omega)

/-- The ticks that are due and were not issued. -/
theorem backlog_ncard (hrate : 0 < rate.toNat) (issued : Nat) :
    {ordinal ∈ dueTicks rate epoch now | issued < ordinal}.ncard =
      dueCount rate epoch now - issued := by
  have hbacklog : {ordinal ∈ dueTicks rate epoch now | issued < ordinal} =
      (Finset.Icc (issued + 1) (dueCount rate epoch now) : Set Nat) := by
    ext ordinal
    rw [dueTicks_eq hrate, Finset.coe_Icc, Set.mem_sep_iff, Set.mem_Icc, Set.mem_Icc]
    omega
  rw [hbacklog, Set.ncard_coe_finset, Nat.card_Icc]
  omega

/-- The tick after those that are due comes later. -/
theorem lt_next_deadline (hrate : 0 < rate.toNat) :
    now < epoch + tickOffset rate (dueCount rate epoch now + 1) := by
  by_contra hle
  have hdue := (due_iff epoch now hrate
    (Nat.le_add_left 1 (dueCount rate epoch now))).mp (not_lt.mp hle)
  omega

end Deadlines

namespace FixedTickScheduler

def create (tickRate maximumCatchUpTicks : UInt32) : Except Exception FixedTickScheduler := do
  throwIf (tickRate == 0 || maximumCatchUpTicks == 0)
    (.invalidArgument "fixed tick rate and catch-up limit must be positive")
  pure { tickRate, maximumCatchUpTicks }

/-- A scheduler that has issued some ticks since its epoch. -/
def ticking (rate limit : UInt32) (epoch : TimePoint) (issued : Nat) : FixedTickScheduler where
  tickRate := rate
  maximumCatchUpTicks := limit
  epoch := some epoch
  nextOrdinal := UInt64.ofNat (issued + 1)

theorem start_create {rate limit : UInt32} {created : FixedTickScheduler}
    (h : create rate limit = .ok created) (epoch : TimePoint) :
    0 < rate.toNat ∧ 0 < limit.toNat ∧
      created.start epoch = (ticking rate limit epoch 0, .ok ()) := by
  obtain ⟨hvalid, h⟩ := throwIf_bind_eq_ok.mp h
  obtain rfl := Except.ok.inj h
  rw [Bool.or_eq_false_iff, beq_eq_false_iff_ne, beq_eq_false_iff_ne] at hvalid
  exact ⟨UInt32.pos_iff_ne_zero.mpr hvalid.1, UInt32.pos_iff_ne_zero.mpr hvalid.2, rfl⟩

section Ticking

variable {rate limit : UInt32} {epoch now : Int} {issued : Nat}

/-- Between time points of the source no deadline is out of range. -/
theorem wholeSeconds_lt (hrate : 0 < rate.toNat) (hepoch : Representable epoch)
    (hnow : Representable now) (hissued : issued ≤ dueCount rate epoch now) :
    (issued + 1) / rate.toNat < 2 ^ 63 := by
  have hoffset : tickOffset rate issued < 2 ^ 64 := by
    obtain ⟨hlow, -⟩ := hepoch
    obtain ⟨-, hhigh⟩ := hnow
    rcases Nat.eq_zero_or_pos issued with rfl | hpos
    · simp [tickOffset]
    · have hdue := (due_iff _ _ hrate hpos).mpr hissued
      omega
  have hwhole : (issued + 1) / rate.toNat * 1000000000 ≤ tickOffset rate (issued + 1) := by
    rw [← tickOffset_split (issued + 1) hrate]
    exact Nat.le_add_right _ _
  have hnext := tickOffset_succ_le issued hrate
  omega

theorem offsetFor_ticking (hrate : 0 < rate.toNat) {ordinal : UInt64}
    (hwhole : ordinal.toNat / rate.toNat < 2 ^ 63) :
    (ticking rate limit epoch issued).offsetFor ordinal =
      .ok (tickOffset rate ordinal.toNat : Int) := by
  have hfits : decide (2 ^ 63 ≤ ordinal.toNat / rate.toNat) = false :=
    decide_eq_false (not_le.mpr hwhole)
  show (do throwIf (decide (2 ^ 63 ≤ ordinal.toNat / rate.toNat)) _; _) = _
  rw [hfits, ← tickOffset_split ordinal.toNat hrate]
  rfl

theorem nextDeadline_ticking (hrate : 0 < rate.toNat) (hepoch : Representable epoch)
    (hnow : Representable now) (hissued : issued ≤ dueCount rate epoch now)
    (hordinal : issued + 1 < 2 ^ 64) :
    (ticking rate limit epoch issued).nextDeadline =
      .ok (epoch + tickOffset rate (issued + 1)) := by
  have hnext : (UInt64.ofNat (issued + 1)).toNat = issued + 1 :=
    UInt64.toNat_ofNat_of_lt' hordinal
  have hwhole : (UInt64.ofNat (issued + 1)).toNat / rate.toNat < 2 ^ 63 := by
    rw [hnext]
    exact wholeSeconds_lt hrate hepoch hnow hissued
  have hoffset : (ticking rate limit epoch issued).offsetFor
      (ticking rate limit epoch issued).nextOrdinal =
        .ok (tickOffset rate (issued + 1) : Int) :=
    (offsetFor_ticking hrate hwhole).trans (by rw [hnext])
  show (do let offset ← (ticking rate limit epoch issued).offsetFor _; _) = _
  rw [hoffset]
  rfl

theorem ticking_succ :
    { ticking rate limit epoch issued with
      nextOrdinal := (ticking rate limit epoch issued).nextOrdinal + 1 } =
        ticking rate limit epoch (issued + 1) := by
  have hnext : UInt64.ofNat (issued + 1) + 1 = UInt64.ofNat (issued + 1 + 1) :=
    (UInt64.ofNat_add (issued + 1) 1).symm
  exact congrArg (fun nextOrdinal => { ticking rate limit epoch issued with nextOrdinal }) hnext

theorem nextOrdinal_last (hordinal : issued + 1 < 2 ^ 64) :
    (ticking rate limit epoch issued).nextOrdinal = 2 ^ 64 - 1 ↔ 2 ^ 64 ≤ issued + 1 + 1 := by
  have hnext : (ticking rate limit epoch issued).nextOrdinal.toNat = issued + 1 :=
    UInt64.toNat_ofNat_of_lt' hordinal
  have hmax : ((2 : UInt64) ^ 64 - 1).toNat = 2 ^ 64 - 1 := by decide +kernel
  rw [← UInt64.toNat_inj, hnext, hmax]
  omega

/-- The call counts the ticks that are due, up to the limit. -/
theorem countDue_ticking (limit : UInt32) (hrate : 0 < rate.toNat) (hepoch : Representable epoch)
    (hnow : Representable now) (rounds : Nat) (ticksDue : UInt32)
    (hissued : issued ≤ dueCount rate epoch now)
    (hordinal : issued + min rounds (dueCount rate epoch now - issued) + 1 < 2 ^ 64) :
    (ticking rate limit epoch issued).countDue now ticksDue rounds =
      (ticking rate limit epoch (issued + min rounds (dueCount rate epoch now - issued)),
        .ok (ticksDue + UInt32.ofNat (min rounds (dueCount rate epoch now - issued)))) := by
  induction rounds generalizing issued ticksDue with
  | zero =>
    rw [Nat.zero_min, Nat.add_zero, countDue]
    exact congrArg (fun ticks => (_, Except.ok ticks)) (UInt32.add_zero ticksDue).symm
  | succ rounds ih =>
    rw [countDue, nextDeadline_ticking hrate hepoch hnow hissued (by omega), attempt_ok]
    by_cases hdue : epoch + tickOffset rate (issued + 1) ≤ now
    · have hcount := (due_iff _ _ hrate (Nat.le_add_left 1 issued)).mp hdue
      have hmin : min (rounds + 1) (dueCount rate epoch now - issued) =
          min rounds (dueCount rate epoch now - (issued + 1)) + 1 := by omega
      rw [hmin] at hordinal ⊢
      have hlater : (ticking rate limit epoch issued).nextOrdinal ≠ 2 ^ 64 - 1 := by
        rw [Ne, nextOrdinal_last (by omega)]
        omega
      rw [if_neg (not_lt.mpr hdue), if_neg hlater, ticking_succ,
        ih (ticksDue + 1) hcount (by omega), Nat.add_right_comm, Nat.add_assoc issued]
      have hticks : ticksDue + 1 + UInt32.ofNat (min rounds
          (dueCount rate epoch now - (issued + 1))) = ticksDue + UInt32.ofNat (min rounds
            (dueCount rate epoch now - (issued + 1)) + 1) := by
        rw [UInt32.ofNat_add, UInt32.add_comm (UInt32.ofNat _), ← UInt32.add_assoc]
        rfl
      rw [hticks]
    · have hnone : dueCount rate epoch now - issued = 0 := by
        have := (due_iff epoch now hrate (Nat.le_add_left 1 issued)).not.mp hdue
        omega
      rw [if_pos (not_le.mp hdue), hnone, Nat.min_zero, Nat.add_zero]
      exact congrArg (fun ticks => (_, Except.ok ticks)) (UInt32.add_zero ticksDue).symm

/-- Past the last ordinal the count throws. -/
theorem countDue_exhausted (limit : UInt32) (hrate : 0 < rate.toNat) (hepoch : Representable epoch)
    (hnow : Representable now) (rounds : Nat) (ticksDue : UInt32)
    (hissued : issued ≤ dueCount rate epoch now) (hfirst : issued + 1 < 2 ^ 64)
    (hordinal : 2 ^ 64 ≤ issued + min rounds (dueCount rate epoch now - issued) + 1) :
    ∃ e, ((ticking rate limit epoch issued).countDue now ticksDue rounds).2 = .error e := by
  induction rounds generalizing issued ticksDue with
  | zero => omega
  | succ rounds ih =>
    have hcount : issued + 1 ≤ dueCount rate epoch now := by omega
    have hdue := (due_iff epoch now hrate
      (Nat.le_add_left 1 issued)).mpr hcount
    rw [countDue, nextDeadline_ticking hrate hepoch hnow hissued hfirst, attempt_ok,
      if_neg (not_lt.mpr hdue)]
    split
    next => exact ⟨_, rfl⟩
    next hlater =>
      have hsecond := not_le.mp ((nextOrdinal_last hfirst).not.mp hlater)
      rw [ticking_succ]
      exact ih (ticksDue + 1) hcount hsecond (by omega)

theorem advance_counted {counted : FixedTickScheduler × Except Exception UInt32}
    (h : (ticking rate limit epoch issued).countDue now 0 limit.toNat = counted) :
    (ticking rate limit epoch issued).advance now =
      attempt counted.1 counted.2 fun ticksDue =>
        attempt counted.1 counted.1.nextDeadline fun firstUnprocessedDeadline =>
          if ticksDue = limit ∧ firstUnprocessedDeadline ≤ now then
            ({ counted.1 with epoch := some now, nextOrdinal := 1 },
              .ok { ticksDue, rebased := true, lateness := now - firstUnprocessedDeadline })
          else (counted.1, .ok { ticksDue }) := by
  rw [← h]
  rfl

/-- What a call returns: the new epoch when more ticks are due than its limit, and otherwise
the ticks that are due. -/
theorem advance_ticking (hrate : 0 < rate.toNat) (hepoch : Representable epoch)
    (hnow : Representable now) (hissued : issued ≤ dueCount rate epoch now)
    (hordinal : issued + min limit.toNat (dueCount rate epoch now - issued) + 1 < 2 ^ 64) :
    (ticking rate limit epoch issued).advance now =
      if limit.toNat < dueCount rate epoch now - issued then
        (ticking rate limit now 0, .ok {
          ticksDue := limit
          rebased := true
          lateness := now - (epoch + tickOffset rate (issued + limit.toNat + 1)) })
      else (ticking rate limit epoch (dueCount rate epoch now),
        .ok { ticksDue := UInt32.ofNat (dueCount rate epoch now - issued) }) := by
  have hcounted := countDue_ticking limit hrate hepoch hnow limit.toNat 0 hissued
    hordinal
  rw [UInt32.zero_add] at hcounted
  rw [advance_counted hcounted]
  by_cases hbacklog : limit.toNat < dueCount rate epoch now - issued
  · rw [if_pos hbacklog]
    rw [Nat.min_eq_left hbacklog.le] at hordinal ⊢
    have hcount : issued + limit.toNat + 1 ≤ dueCount rate epoch now := by omega
    have hdue := (due_iff _ _ hrate (Nat.le_add_left 1 (issued + limit.toNat))).mpr hcount
    rw [attempt_ok, nextDeadline_ticking hrate hepoch hnow (by omega) hordinal, attempt_ok,
      UInt32.ofNat_toNat]
    exact if_pos ⟨rfl, hdue⟩
  · rw [if_neg hbacklog]
    have hall : issued + (dueCount rate epoch now - issued) = dueCount rate epoch now := by omega
    rw [Nat.min_eq_right (not_lt.mp hbacklog), hall] at hordinal ⊢
    rw [attempt_ok, nextDeadline_ticking hrate hepoch hnow le_rfl hordinal, attempt_ok]
    exact if_neg fun h => absurd h.2 (not_le.mpr (lt_next_deadline hrate))

end Ticking

/-! ## Sixty-four bits -/

/-- A signed result, unless it is out of range. -/
def int64? (value : Int) : Option Int :=
  if Representable value then some value else none

/-- An unsigned result, unless it is out of range. -/
def uint64? (value : Nat) : Option Nat :=
  if value < 2 ^ 64 then some value else none

/-- The offset with every product, conversion and sum checked. -/
def checkedOffsetFor (scheduler : FixedTickScheduler) (ordinal : UInt64) :
    Option (Except Exception Int) := do
  let wholeSeconds := ordinal.toNat / scheduler.tickRate.toNat
  if 2 ^ 63 ≤ wholeSeconds then some (.error (.overflowError "fixed tick deadline exhausted"))
  else
    let product ← uint64? (1000000000 * (ordinal.toNat % scheduler.tickRate.toNat))
    let seconds ← int64? (wholeSeconds * 1000000000)
    let fractionalNanoseconds ← int64? (product / scheduler.tickRate.toNat)
    let offset ← int64? (seconds + fractionalNanoseconds)
    some (.ok offset)

def checkedNextDeadline (scheduler : FixedTickScheduler) : Option (Except Exception TimePoint) :=
  match scheduler.epoch with
  | none => some (.error (.logicError "fixed tick scheduler has not started"))
  | some epoch =>
    (scheduler.checkedOffsetFor scheduler.nextOrdinal).bind fun
      | .error e => some (.error e)
      | .ok offset => (int64? (epoch + offset)).map .ok

def checkedCountDue (scheduler : FixedTickScheduler) (now : TimePoint) (ticksDue : UInt32) :
    Nat → Option (FixedTickScheduler × Except Exception UInt32)
  | 0 => some (scheduler, .ok ticksDue)
  | remaining + 1 =>
    scheduler.checkedNextDeadline.bind fun
      | .error e => some (scheduler, .error e)
      | .ok deadline =>
        if now < deadline then some (scheduler, .ok ticksDue)
        else if scheduler.nextOrdinal = 2 ^ 64 - 1 then
          some (scheduler, .error (.overflowError "fixed tick ordinal exhausted"))
        else
          { scheduler with nextOrdinal := scheduler.nextOrdinal + 1 }.checkedCountDue now
            (ticksDue + 1) remaining

/-- The end of a call, with the difference of the times checked. -/
def checkedRebase (scheduler : FixedTickScheduler) (now : TimePoint) (ticksDue : UInt32)
    (firstUnprocessedDeadline : TimePoint) :
    Option (FixedTickScheduler × Except Exception TickAdvanceResult) :=
  if ticksDue = scheduler.maximumCatchUpTicks ∧ firstUnprocessedDeadline ≤ now then
    (int64? (now - firstUnprocessedDeadline)).map fun lateness =>
      ({ scheduler with epoch := some now, nextOrdinal := 1 },
        .ok { ticksDue, rebased := true, lateness })
  else some (scheduler, .ok { ticksDue })

/-- A call with its arithmetic checked. -/
def checkedAdvance (scheduler : FixedTickScheduler) (now : TimePoint) :
    Option (FixedTickScheduler × Except Exception TickAdvanceResult) :=
  match scheduler.epoch with
  | none => some (scheduler, .error (.logicError "fixed tick scheduler has not started"))
  | some _ =>
    (scheduler.checkedCountDue now 0 scheduler.maximumCatchUpTicks.toNat).bind fun
      | (counted, .error e) => some (counted, .error e)
      | (counted, .ok ticksDue) =>
        counted.checkedNextDeadline.bind fun
          | .error e => some (counted, .error e)
          | .ok deadline => counted.checkedRebase now ticksDue deadline

/-- The time points are two seconds below the largest one, and no further apart than that. -/
structure WithinReach (start now : Int) : Prop where
  startFits : -2 ^ 63 ≤ start ∧ start + 2000000000 < 2 ^ 63
  nowFits : -2 ^ 63 ≤ now ∧ now + 2000000000 < 2 ^ 63
  span : now - start + 2000000000 < 2 ^ 63

section Checked

variable {rate limit : UInt32} {epoch now : Int} {issued : Nat}

theorem WithinReach.representable (h : WithinReach epoch now) :
    Representable epoch ∧ Representable now := by
  obtain ⟨hepoch, hnow, -⟩ := h
  exact ⟨⟨hepoch.1, by omega⟩, ⟨hnow.1, by omega⟩⟩

/-- The deadlines that a call looks at are at most a second after it. -/
theorem WithinReach.offset (h : WithinReach epoch now) (hrate : 0 < rate.toNat)
    (hissued : issued ≤ dueCount rate epoch now) :
    Representable (tickOffset rate (issued + 1) : Int) ∧
      Representable (epoch + tickOffset rate (issued + 1)) := by
  have hnext := tickOffset_succ_le issued hrate
  have hoffset : epoch + tickOffset rate issued ≤ max epoch now := by
    rcases Nat.eq_zero_or_pos issued with rfl | hpos
    · simp [tickOffset]
    · exact ((due_iff _ _ hrate hpos).mpr hissued).trans (le_max_right epoch now)
  obtain ⟨hepoch, hnow, hspan⟩ := h
  unfold Representable
  omega

theorem int64?_of_representable {value : Int} (h : Representable value) :
    int64? value = some value :=
  if_pos h

theorem int64?_of_nonneg {value bound : Int} (h : 0 ≤ value) (hbound : Representable bound)
    (hle : value ≤ bound) : int64? value = some value :=
  int64?_of_representable ⟨le_trans (by decide) h, hle.trans_lt hbound.2⟩

theorem uint64?_of_lt {value : Nat} (h : value < 2 ^ 64) : uint64? value = some value :=
  if_pos h

theorem checkedOffsetFor_eq {scheduler : FixedTickScheduler} {ordinal : UInt64}
    (hrate : 0 < scheduler.tickRate.toNat)
    (hwhole : ordinal.toNat / scheduler.tickRate.toNat < 2 ^ 63)
    (hoffset : Representable (tickOffset scheduler.tickRate ordinal.toNat : Int)) :
    scheduler.checkedOffsetFor ordinal =
      some (.ok (tickOffset scheduler.tickRate ordinal.toNat : Int)) := by
  have hproduct : 1000000000 * (ordinal.toNat % scheduler.tickRate.toNat) < 2 ^ 64 := by
    have hremainder := Nat.mod_lt ordinal.toNat hrate
    have hlimit := scheduler.tickRate.toNat_lt
    omega
  have hsum : ((ordinal.toNat / scheduler.tickRate.toNat : Nat) : Int) * 1000000000 +
      ((1000000000 * (ordinal.toNat % scheduler.tickRate.toNat) : Nat) : Int) /
        (scheduler.tickRate.toNat : Int) = tickOffset scheduler.tickRate ordinal.toNat := by
    rw [← tickOffset_split ordinal.toNat hrate]
    push_cast
    rfl
  have hfraction : (0 : Int) ≤ ((1000000000 * (ordinal.toNat % scheduler.tickRate.toNat) : Nat) :
      Int) / (scheduler.tickRate.toNat : Int) :=
    Int.ediv_nonneg (Int.natCast_nonneg _) (Int.natCast_nonneg _)
  have hseconds : (0 : Int) ≤
      ((ordinal.toNat / scheduler.tickRate.toNat : Nat) : Int) * 1000000000 :=
    Int.mul_nonneg (Int.natCast_nonneg _) (by decide)
  unfold checkedOffsetFor
  dsimp only
  split
  next hexhausted => exact absurd hexhausted (not_le.mpr hwhole)
  next =>
    rw [uint64?_of_lt hproduct, Option.bind_eq_bind, Option.bind_some,
      int64?_of_nonneg hseconds hoffset (by omega), Option.bind_eq_bind, Option.bind_some,
      int64?_of_nonneg hfraction hoffset (by omega), Option.bind_some, hsum,
      int64?_of_representable hoffset]
    rfl

theorem checkedNextDeadline_ticking (h : WithinReach epoch now) (hrate : 0 < rate.toNat)
    (hissued : issued ≤ dueCount rate epoch now) (hordinal : issued + 1 < 2 ^ 64) :
    (ticking rate limit epoch issued).checkedNextDeadline =
      some (ticking rate limit epoch issued).nextDeadline := by
  obtain ⟨hepoch, hnow⟩ := h.representable
  obtain ⟨hoffset, hdeadline⟩ := h.offset hrate hissued
  have hnext : (ticking rate limit epoch issued).nextOrdinal.toNat = issued + 1 :=
    UInt64.toNat_ofNat_of_lt' hordinal
  have hchecked : (ticking rate limit epoch issued).checkedOffsetFor
      (ticking rate limit epoch issued).nextOrdinal =
        some (.ok (tickOffset rate (issued + 1) : Int)) := by
    rw [← hnext] at hoffset ⊢
    refine checkedOffsetFor_eq hrate ?_ hoffset
    rw [hnext]
    exact wholeSeconds_lt hrate hepoch hnow hissued
  rw [nextDeadline_ticking hrate hepoch hnow hissued hordinal]
  show ((ticking rate limit epoch issued).checkedOffsetFor
    (ticking rate limit epoch issued).nextOrdinal).bind _ = _
  rw [hchecked]
  show (int64? (epoch + tickOffset rate (issued + 1))).map _ = _
  rw [int64?_of_representable hdeadline]
  rfl

theorem checkedCountDue_ticking (limit : UInt32) (h : WithinReach epoch now)
    (hrate : 0 < rate.toNat) (rounds : Nat) (ticksDue : UInt32)
    (hissued : issued ≤ dueCount rate epoch now)
    (hordinal : issued + 1 < 2 ^ 64) :
    (ticking rate limit epoch issued).checkedCountDue now ticksDue rounds =
      some ((ticking rate limit epoch issued).countDue now ticksDue rounds) := by
  obtain ⟨hepoch, hnow⟩ := h.representable
  induction rounds generalizing issued ticksDue with
  | zero => rfl
  | succ rounds ih =>
    rw [checkedCountDue, checkedNextDeadline_ticking h hrate hissued hordinal, countDue,
      nextDeadline_ticking hrate hepoch hnow hissued hordinal, attempt_ok, Option.bind_some]
    dsimp only
    split
    next => rfl
    next hdue =>
      split
      next => rfl
      next hlater =>
        have hsecond := not_le.mp ((nextOrdinal_last hordinal).not.mp hlater)
        rw [ticking_succ]
        exact ih (ticksDue + 1) ((due_iff _ _ hrate (Nat.le_add_left 1 issued)).mp (not_lt.mp hdue))
          hsecond

/-- Within reach no product, conversion, sum or difference of a call leaves its type. -/
theorem checkedAdvance_ticking (h : WithinReach epoch now) (hrate : 0 < rate.toNat)
    (hissued : issued ≤ dueCount rate epoch now) (hordinal : issued + 1 < 2 ^ 64) :
    (ticking rate limit epoch issued).checkedAdvance now =
      some ((ticking rate limit epoch issued).advance now) := by
  obtain ⟨hepoch, hnow⟩ := h.representable
  have hchecked := checkedCountDue_ticking limit h hrate limit.toNat 0 hissued hordinal
  show ((ticking rate limit epoch issued).checkedCountDue now 0 limit.toNat).bind _ = _
  rw [hchecked, Option.bind_some, advance_counted rfl]
  rcases lt_or_ge (issued + min limit.toNat (dueCount rate epoch now - issued) + 1) (2 ^ 64)
    with hfits | hexhausted
  · rw [countDue_ticking limit hrate hepoch hnow limit.toNat 0 hissued hfits]
    have hcounted : issued + min limit.toNat (dueCount rate epoch now - issued) ≤
        dueCount rate epoch now := by omega
    dsimp only
    rw [checkedNextDeadline_ticking h hrate hcounted hfits, attempt_ok,
      nextDeadline_ticking hrate hepoch hnow hcounted hfits, attempt_ok, Option.bind_some]
    dsimp only
    unfold checkedRebase
    split
    next hrebased =>
      have hlate : epoch + (tickOffset rate (issued +
          min limit.toNat (dueCount rate epoch now - issued) + 1) : Int) ≤ now := hrebased.2
      have hlateness : Representable (now - (epoch +
          tickOffset rate (issued + min limit.toNat (dueCount rate epoch now - issued) + 1))) := by
        have hspan := h.span
        unfold Representable
        omega
      rw [int64?_of_representable hlateness]
      exact congrArg some (if_pos hrebased).symm
    next hkept => exact congrArg some (if_neg hkept).symm
  · obtain ⟨e, he⟩ := countDue_exhausted limit hrate hepoch hnow limit.toNat 0 hissued
      hordinal hexhausted
    generalize (ticking rate limit epoch issued).countDue now 0 limit.toNat = counted at he ⊢
    obtain ⟨state, outcome⟩ := counted
    obtain rfl : outcome = .error e := he
    rfl

end Checked

/-! ## Runs -/

def ticksOf (reply : Except Exception TickAdvanceResult) : Nat :=
  reply.toOption.elim 0 fun result => result.ticksDue.toNat

/-- The call moved the epoch. -/
def rebasedBy (reply : Except Exception TickAdvanceResult) : Bool :=
  reply.toOption.elim false TickAdvanceResult.rebased

/-- The calls since the epoch: the ticks they issued and the time of the last one. -/
structure Segment where
  epoch : TimePoint
  issued : Nat := 0
  last : Option TimePoint := none
  deriving DecidableEq

def Segment.call (segment : Segment) (now : TimePoint)
    (reply : Except Exception TickAdvanceResult) : Segment :=
  if rebasedBy reply then { epoch := now }
  else { segment with issued := segment.issued + ticksOf reply, last := some now }

/-- The segment that a run of calls ends in. -/
def segmentAfter (scheduler : FixedTickScheduler) (segment : Segment) :
    List TimePoint → Segment
  | [] => segment
  | now :: times =>
    segmentAfter (scheduler.advance now).1 (segment.call now (scheduler.advance now).2) times

/-- Without a rebase the segment is the whole run. -/
theorem segmentAfter_kept (scheduler : FixedTickScheduler) (segment : Segment)
    (times : List TimePoint)
    (h : ∀ reply ∈ replies advance scheduler times, rebasedBy reply = false) :
    segmentAfter scheduler segment times = {
      epoch := segment.epoch
      issued := segment.issued + ((replies advance scheduler times).map ticksOf).sum
      last := times.getLast?.or segment.last } := by
  induction times generalizing scheduler segment with
  | nil => rfl
  | cons now times ih =>
    have hkept := h _ List.mem_cons_self
    have hlast : (now :: times).getLast?.or segment.last = times.getLast?.or (some now) := by
      cases times with
      | nil => rfl
      | cons second times =>
        rw [List.getLast?_cons_cons, List.getLast?_cons]
        rfl
    rw [segmentAfter, ih _ _ fun reply hreply => h reply (List.mem_cons_of_mem _ hreply),
      Segment.call, hkept, if_neg Bool.false_ne_true, replies, List.map_cons, List.sum_cons,
      ← Nat.add_assoc, hlast]

/-- The time point keeps within reach of the start, and fewer ticks come due than there are
ordinals. -/
structure OnTime (rate : UInt32) (start now : Int) : Prop where
  reach : WithinReach start now
  ordinals : (dueTicks rate start now).ncard + 1 < 2 ^ 64

/-- The scheduler has issued the ticks that were due at the last call, and the calls to come
are later. -/
structure OnSchedule (rate limit : UInt32) (start : Int) (coming : List Int)
    (scheduler : FixedTickScheduler) (segment : Segment) : Prop where
  state : scheduler = ticking rate limit segment.epoch segment.issued
  issued : segment.issued = segment.last.elim 0 (dueCount rate segment.epoch)
  epochFits : start ≤ segment.epoch ∧ (segment.epoch : Int) + 2000000000 < 2 ^ 63
  lastCall : ∀ last ∈ segment.last, ∀ now ∈ coming, (last : Int) ≤ now
  ordered : coming.Pairwise (· ≤ ·)
  onTime : ∀ now ∈ coming, OnTime rate start now

section Runs

variable {rate limit : UInt32} {start now : Int} {coming : List Int}
  {scheduler : FixedTickScheduler} {segment : Segment}

theorem OnSchedule.reach (h : OnSchedule rate limit start coming scheduler segment)
    (hnow : now ∈ coming) : WithinReach segment.epoch now := by
  obtain ⟨hfirst, hlast⟩ := h.epochFits
  obtain ⟨hstart, hfits, hspan⟩ := (h.onTime now hnow).reach
  exact ⟨⟨hstart.1.trans hfirst, hlast⟩, hfits, lt_of_le_of_lt (by omega) hspan⟩

theorem OnSchedule.issued_le (h : OnSchedule rate limit start coming scheduler segment)
    (hrate : 0 < rate.toNat) (hnow : now ∈ coming) :
    segment.issued ≤ dueCount rate segment.epoch now := by
  rw [h.issued]
  cases hlast : segment.last with
  | none => exact Nat.zero_le _
  | some last => exact dueCount_mono hrate (h.lastCall last hlast now hnow)

theorem OnSchedule.ordinals (h : OnSchedule rate limit start coming scheduler segment)
    (hrate : 0 < rate.toNat) (hnow : now ∈ coming) :
    dueCount rate segment.epoch now + 1 < 2 ^ 64 := by
  have hfewer := dueCount_anti now hrate h.epochFits.1
  have hordinals := (h.onTime now hnow).ordinals
  rw [dueTicks_ncard hrate] at hordinals
  omega

/-- What a call does that is made on schedule. -/
theorem OnSchedule.advance_eq (h : OnSchedule rate limit start coming scheduler segment)
    (hrate : 0 < rate.toNat) (hnow : now ∈ coming) :
    scheduler.advance now =
      if limit.toNat < dueCount rate segment.epoch now - segment.issued then
        (ticking rate limit now 0, .ok {
          ticksDue := limit
          rebased := true
          lateness := now - (segment.epoch + tickOffset rate (segment.issued + limit.toNat + 1)) })
      else (ticking rate limit segment.epoch (dueCount rate segment.epoch now),
        .ok { ticksDue := UInt32.ofNat (dueCount rate segment.epoch now - segment.issued) }) := by
  obtain ⟨hepoch, hfits⟩ := (h.reach hnow).representable
  have hissued := h.issued_le hrate hnow
  have hordinals := h.ordinals hrate hnow
  rw [h.state]
  exact advance_ticking hrate hepoch hfits hissued (by omega)

/-- The step lemma. -/
theorem OnSchedule.call (h : OnSchedule rate limit start (now :: coming) scheduler segment)
    (hrate : 0 < rate.toNat) :
    OnSchedule rate limit start coming (scheduler.advance now).1
      (segment.call now (scheduler.advance now).2) := by
  obtain ⟨hlater, hordered⟩ := List.pairwise_cons.mp h.ordered
  have honTime : ∀ time ∈ coming, OnTime rate start time :=
    fun time htime => h.onTime time (List.mem_cons_of_mem now htime)
  rw [h.advance_eq hrate List.mem_cons_self]
  by_cases hbacklog : limit.toNat < dueCount rate segment.epoch now - segment.issued
  · rw [if_pos hbacklog]
    have hdue := (due_iff segment.epoch now hrate (by omega)).mpr le_rfl
    have hfirst := h.epochFits.1
    exact {
      state := rfl
      issued := rfl
      epochFits :=
        ⟨by show start ≤ now; omega, (h.onTime now List.mem_cons_self).reach.nowFits.2⟩
      lastCall := fun _ hnone => nomatch hnone
      ordered := hordered
      onTime := honTime }
  · rw [if_neg hbacklog]
    have hissued := h.issued_le hrate List.mem_cons_self
    have hticks : segment.issued + (UInt32.ofNat (dueCount rate segment.epoch now -
        segment.issued)).toNat = dueCount rate segment.epoch now := by
      rw [UInt32.toNat_ofNat_of_lt' (lt_of_le_of_lt (not_lt.mp hbacklog) limit.toNat_lt)]
      omega
    exact {
      state := congrArg (ticking rate limit segment.epoch) hticks.symm
      issued := hticks
      epochFits := h.epochFits
      lastCall := fun last hlast => by
        obtain rfl := Option.some.inj hlast
        exact hlater
      ordered := hordered
      onTime := honTime }

/-- The run lemma. -/
theorem OnSchedule.run (times : List Int)
    (h : OnSchedule rate limit start (times ++ coming) scheduler segment)
    (hrate : 0 < rate.toNat) :
    OnSchedule rate limit start coming (after advance scheduler times)
      (segmentAfter scheduler segment times) := by
  induction times generalizing scheduler segment with
  | nil => exact h
  | cons now times ih =>
    rw [after_cons, segmentAfter]
    exact ih (h.call hrate)

/-- A call issues at most its limit and rebases exactly when a backlog remains. -/
theorem OnSchedule.result (h : OnSchedule rate limit start coming scheduler segment)
    (hrate : 0 < rate.toNat) (hnow : now ∈ coming) :
    scheduler.checkedAdvance now = some (scheduler.advance now) ∧
      ∃ result, (scheduler.advance now).2 = .ok result ∧ result.ticksDue ≤ limit ∧
        (result.rebased = true ↔ limit.toNat <
          {ordinal ∈ dueTicks rate segment.epoch now | segment.issued < ordinal}.ncard) ∧
        (result.rebased = true → (scheduler.advance now).1 = ticking rate limit now 0) := by
  have hissued := h.issued_le hrate hnow
  have hordinals := h.ordinals hrate hnow
  have hchecked : scheduler.checkedAdvance now = some (scheduler.advance now) := by
    rw [h.state]
    exact checkedAdvance_ticking (h.reach hnow) hrate hissued (by omega)
  refine ⟨hchecked, ?_⟩
  rw [h.advance_eq hrate hnow, backlog_ncard hrate]
  split
  next hbacklog =>
    exact ⟨_, rfl, UInt32.le_refl limit, iff_of_true rfl hbacklog, fun _ => rfl⟩
  next hbacklog =>
    have hticks : UInt32.ofNat (dueCount rate segment.epoch now - segment.issued) ≤ limit := by
      rw [UInt32.le_iff_toNat_le, UInt32.toNat_ofNat_of_lt'
        (lt_of_le_of_lt (not_lt.mp hbacklog) limit.toNat_lt)]
      exact not_lt.mp hbacklog
    exact ⟨_, rfl, hticks, iff_of_false Bool.false_ne_true hbacklog, fun h => nomatch h⟩

/-- In a run of calls the ticks issued since the epoch are those that were due at the last
call, and the next call keeps this law. -/
theorem advance_never_drifts {created : FixedTickScheduler}
    (hcreate : create rate limit = .ok created) (epoch : Int) (times : List Int) (now : Int)
    (hordered : (times ++ [now]).Pairwise (· ≤ ·))
    (honTime : ∀ time ∈ times ++ [now], OnTime rate epoch time) :
    let started := (created.start epoch).1
    let scheduler := after advance started times
    let segment := segmentAfter started { epoch } times
    segment.issued = segment.last.elim 0 (fun last => (dueTicks rate segment.epoch last).ncard) ∧
      ((∀ reply ∈ replies advance started times, rebasedBy reply = false) → segment = {
        epoch
        issued := ((replies advance started times).map ticksOf).sum
        last := times.getLast? }) ∧
      scheduler.checkedAdvance now = some (scheduler.advance now) ∧
      ∃ result, (scheduler.advance now).2 = .ok result ∧ result.ticksDue ≤ limit ∧
        (result.rebased = true ↔ limit.toNat <
          {ordinal ∈ dueTicks rate segment.epoch now | segment.issued < ordinal}.ncard) ∧
        (result.rebased = true → (scheduler.advance now).1 = (created.start now).1) := by
  intro started scheduler segment
  obtain ⟨hrate, -, hstart⟩ := start_create hcreate epoch
  have hfirst : OnSchedule rate limit epoch (times ++ [now]) started { epoch } := {
    state := congrArg Prod.fst hstart
    issued := rfl
    epochFits := ⟨le_rfl, (honTime now (by simp)).reach.startFits.2⟩
    lastCall := fun _ hnone => nomatch hnone
    ordered := hordered
    onTime := honTime }
  have hschedule : OnSchedule rate limit epoch [now] scheduler segment := hfirst.run times hrate
  have hissued : segment.issued =
      segment.last.elim 0 (fun last => (dueTicks rate segment.epoch last).ncard) := by
    rw [hschedule.issued]
    exact congrArg (segment.last.elim 0) (funext fun last => (dueTicks_ncard hrate).symm)
  have hkept : (∀ reply ∈ replies advance started times, rebasedBy reply = false) →
      segment = {
      epoch
      issued := ((replies advance started times).map ticksOf).sum
      last := times.getLast? } := by
    intro h
    have hsegment := segmentAfter_kept started { epoch } times h
    rw [Nat.zero_add, Option.or_none] at hsegment
    exact hsegment
  obtain ⟨hchecked, result, hresult, hlimit, hrebased, hanew⟩ :=
    hschedule.result hrate List.mem_cons_self
  refine ⟨hissued, hkept, hchecked, result, hresult, hlimit, hrebased, fun h => ?_⟩
  rw [hanew h]
  exact (congrArg Prod.fst (start_create hcreate now).2.2).symm

/-- Thirty ticks a second, called after 40 ms and then after 100 ms. -/
theorem advance_never_drifts_thirty :
    let scheduler := (FixedTickScheduler.start { tickRate := 30, maximumCatchUpTicks := 5 } 0).1
    ∃ result, ((after advance scheduler [40000000]).advance 100000000).2 = .ok result ∧
      result.ticksDue ≤ 5 := by
  have hcreate : create 30 5 = .ok { tickRate := 30, maximumCatchUpTicks := 5 } := rfl
  have honTime : ∀ time ∈ [40000000] ++ [100000000], OnTime 30 0 time := by
    intro time htime
    have hbounds : 0 ≤ time ∧ time ≤ 100000000 := by
      rcases List.mem_pair.mp htime with rfl | rfl <;> decide
    have hdue : dueCount 30 0 time ≤ dueCount 30 0 100000000 :=
      dueCount_mono (by decide) hbounds.2
    have hcount : dueCount 30 0 100000000 = 3 := by decide
    refine ⟨⟨by decide, by omega, by omega⟩, ?_⟩
    rw [dueTicks_ncard (by decide)]
    omega
  obtain ⟨-, -, -, result, hresult, hlimit, -⟩ :=
    advance_never_drifts hcreate 0 [40000000] 100000000 (by decide) honTime
  exact ⟨result, hresult, hlimit⟩

/-- The time points are two seconds below the largest one, and yet the lateness overflows. -/
theorem checkedAdvance_overflows :
    ∃ created, create 1 1 = .ok created ∧ Representable (-2 ^ 63) ∧
      (2 ^ 63 - 1 - 2000000000 : Int) + 2000000000 < 2 ^ 63 ∧
      checkedAdvance (created.start (-2 ^ 63)).1 (2 ^ 63 - 1 - 2000000000) = none :=
  ⟨{ tickRate := 1, maximumCatchUpTicks := 1 }, rfl, by decide +kernel⟩

end Runs

end FixedTickScheduler

end SurvivalArena
