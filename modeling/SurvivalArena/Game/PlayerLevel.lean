import SurvivalArena.Framework.Machine
import SurvivalArena.Game.Equipment

/-!
# The levels of a player

Experience is granted, and what reaches the limit becomes levels, skill points and grown
statistics.  The numbers are exact, as they are for the equipment.
-/

namespace SurvivalArena

/-- What a level adds to the statistics of a player. -/
structure PlayerGrowStatus (K : Type) where
  hp : Int
  stamina : Int
  hitAttack : K
  hitSpeed : K
  defense : K
  healing : K
  healingStamina : K

/-- What a level adds to the experience that the next one takes; no character changes it. -/
def growExpLimit : Int := 25

def maximumLevel : Int := 20

variable {K : Type} [Field K]

/-- A player with the fields of its status that levels change. -/
structure LevelPlayer (K : Type) extends Player K where
  level : Int := 1
  curExpLimit : Int := 50
  curExp : Int := 0
  availableSkillPoints : Int := 1
  growStatus : PlayerGrowStatus K

/-- The loop of `LevelUp`: the experience and its limit afterwards, and the levels gained. -/
def levelUpLoop (curExp curExpLimit : Int) (shouldLevelUpValue : Nat) : Int × Int × Nat :=
  if curExpLimit ≤ curExp then
    levelUpLoop (curExp - curExpLimit) (curExpLimit + growExpLimit) (shouldLevelUpValue + 1)
  else (curExp, curExpLimit, shouldLevelUpValue)
-- a limit that is not positive grows; above a positive one the experience falls
termination_by ((1 - curExpLimit).toNat, curExp.toNat)
decreasing_by
  have hgrow : growExpLimit = 25 := rfl
  by_cases hlimit : curExpLimit ≤ 0
  · refine Prod.Lex.left _ _ ?_
    omega
  · have hsame : (1 - curExpLimit).toNat = 0 := by omega
    have hnext : (1 - (curExpLimit + growExpLimit)).toNat = 0 := by omega
    rw [hsame, hnext]
    refine Prod.Lex.right _ ?_
    omega

namespace LevelPlayer

def setLevel (player : LevelPlayer K) (value : Int) : LevelPlayer K :=
  { player with level := if maximumLevel < value then maximumLevel else value }

/-- The statistics grow by so many levels. -/
def grow (player : LevelPlayer K) (levels : Nat) : LevelPlayer K :=
  { player with
    status := { player.status with
      maxHP := player.status.maxHP + player.growStatus.hp * levels
      hp := player.status.hp + player.growStatus.hp * levels
      maxStamina := player.status.maxStamina + player.growStatus.stamina * levels
      stamina := player.status.stamina + player.growStatus.stamina * levels
      hitAttack := player.status.hitAttack + player.growStatus.hitAttack * levels
      hitSpeed := player.status.hitSpeed + player.growStatus.hitSpeed * levels
      defense := player.status.defense + player.growStatus.defense * levels
      healing := player.status.healing + player.growStatus.healing * levels
      healingStamina := player.status.healingStamina +
        player.growStatus.healingStamina * levels } }

def levelUp (player : LevelPlayer K) : LevelPlayer K :=
  if player.curExp < player.curExpLimit then player
  else if maximumLevel ≤ player.level then player
  else
    let (curExp, curExpLimit, shouldLevelUpValue) :=
      levelUpLoop player.curExp player.curExpLimit 0
    let player := { player with
      curExp
      curExpLimit
      availableSkillPoints := player.availableSkillPoints + shouldLevelUpValue }
    (player.setLevel (player.level + shouldLevelUpValue)).grow shouldLevelUpValue

def setCurExp (player : LevelPlayer K) (value : Int) : LevelPlayer K :=
  { player with curExp := value }.levelUp

/-- The handler of an experience reward. -/
def grant (player : LevelPlayer K) (amount : Nat) : LevelPlayer K :=
  player.setCurExp (player.curExp + amount)

/-- A player with the statistics that the fields of the source start with. -/
def novice : LevelPlayer K where
  status := {
    maxHP := 500
    hp := 500
    maxStamina := 300
    stamina := 300
    hitAttack := 50
    hitSpeed := 54 / 100
    defense := 30
    cooldownReduction := 0
    healing := 72 / 10
    healingStamina := 114 / 10 }
  growStatus := {
    hp := 78
    stamina := 46
    hitAttack := 5
    hitSpeed := 4 / 100
    defense := 7
    healing := 56 / 100
    healingStamina := 62 / 100 }

/-- A player with the statistics that `InitNickyStats` sets. -/
def nicky : LevelPlayer K where
  status := {
    maxHP := 1000
    hp := 1000
    maxStamina := 600
    stamina := 600
    hitAttack := 32
    hitSpeed := 5 / 10
    defense := 55
    cooldownReduction := 0
    healing := 1355 / 1000
    healingStamina := 49 / 10 }
  growStatus := {
    hp := 95
    stamina := 26
    hitAttack := 42 / 10
    hitSpeed := 4 / 100
    defense := 34 / 10
    healing := 135 / 1000
    healingStamina := 3 / 100 }

/-- A player with the statistics that `InitBiancaStats` sets. -/
def bianca : LevelPlayer K where
  status := {
    maxHP := 870
    hp := 870
    maxStamina := 580
    stamina := 580
    hitAttack := 31
    hitSpeed := 4 / 10
    defense := 51
    cooldownReduction := 0
    healing := 3 / 10
    healingStamina := 36 / 10 }
  growStatus := {
    hp := 82
    stamina := 14
    hitAttack := 44 / 10
    hitSpeed := 4 / 100
    defense := 28 / 10
    healing := 3 / 100
    healingStamina := 1 / 100 }

end LevelPlayer

/-! ## The levels that experience pays for -/

/-- The experience that so many levels take from a limit on. -/
def limitSum (curExpLimit : Int) : Nat → Int
  | 0 => 0
  | levels + 1 => limitSum curExpLimit levels + (curExpLimit + growExpLimit * levels)

/-- The experience reaches the limits of so many levels, one after the other. -/
def Covers (curExpLimit curExp : Int) (levels : Nat) : Prop :=
  ∀ earlier < levels, limitSum curExpLimit (earlier + 1) ≤ curExp

/-- The experience reaches so many limits and not the next one. -/
structure Due (curExpLimit curExp : Int) (levels : Nat) : Prop where
  covers : Covers curExpLimit curExp levels
  rest : curExp < limitSum curExpLimit (levels + 1)

section Due

variable {limit exp : Int}

theorem limitSum_add (limit : Int) (first second : Nat) :
    limitSum limit (first + second) =
      limitSum limit first + limitSum (limit + growExpLimit * first) second := by
  induction second with
  | zero => simp [limitSum]
  | succ second ih =>
    rw [← Nat.add_assoc, limitSum, ih, limitSum]
    push_cast
    ring

theorem Due.unique {first second : Nat} (hfirst : Due limit exp first)
    (hsecond : Due limit exp second) : first = second := by
  have hle : ∀ {first second : Nat}, Due limit exp first → Due limit exp second →
      second ≤ first := by
    intro first second hfirst hsecond
    by_contra hlt
    have hcovered := hsecond.covers first (by omega)
    have hrest := hfirst.rest
    omega
  exact le_antisymm (hle hsecond hfirst) (hle hfirst hsecond)

/-- The levels of the rest come after the ones before. -/
theorem Due.add {first second : Nat} {more : Int} (hmore : 0 ≤ more)
    (hfirst : Due limit exp first)
    (hsecond : Due (limit + growExpLimit * first) (exp - limitSum limit first + more) second) :
    Due limit (exp + more) (first + second) := by
  constructor
  · intro earlier hearlier
    by_cases hlt : earlier < first
    · have hcovered := hfirst.covers earlier hlt
      omega
    · obtain ⟨later, rfl⟩ := Nat.exists_eq_add_of_le (not_lt.mp hlt)
      have hcovered := hsecond.covers later (by omega)
      rw [Nat.add_assoc, limitSum_add]
      omega
  · have hrest := hsecond.rest
    rw [Nat.add_assoc, limitSum_add]
    omega

theorem Due.covers_iff {levels count : Nat} (hdue : Due limit exp levels) :
    Covers limit exp count ↔ count ≤ levels := by
  constructor
  · intro hcovers
    by_contra hlt
    have hcovered := hcovers levels (by omega)
    have hrest := hdue.rest
    omega
  · intro hle earlier hearlier
    exact hdue.covers earlier (by omega)

theorem due_zero (h : exp < limit) : Due limit exp 0 := by
  constructor
  · intro earlier hearlier
    omega
  · simpa [limitSum] using h

/-- The loop takes the limits that the experience reaches. -/
theorem levelUpLoop_due (exp limit : Int) (start : Nat) : ∃ levels, Due limit exp levels ∧
    levelUpLoop exp limit start =
      (exp - limitSum limit levels, limit + growExpLimit * levels, start + levels) := by
  induction exp, limit, start using levelUpLoop.induct with
  | case1 exp limit start hreached ih =>
    obtain ⟨levels, hdue, hloop⟩ := ih
    have hsum : ∀ count, limitSum limit (1 + count) =
        limit + limitSum (limit + growExpLimit) count := by
      intro count
      simpa [limitSum] using limitSum_add limit 1 count
    refine ⟨1 + levels, ⟨?_, ?_⟩, ?_⟩
    · intro earlier hearlier
      rw [Nat.add_comm earlier 1, hsum]
      cases earlier with
      | zero =>
        simp only [limitSum]
        omega
      | succ earlier =>
        have hcovered := hdue.covers earlier (by omega)
        omega
    · have hrest := hdue.rest
      rw [Nat.add_assoc, hsum]
      omega
    · rw [levelUpLoop, if_pos hreached, hloop, hsum]
      simp only [Prod.mk.injEq]
      refine ⟨by omega, ?_, by omega⟩
      push_cast
      ring
  | case2 exp limit start hreached =>
    refine ⟨0, due_zero (not_le.mp hreached), ?_⟩
    rw [levelUpLoop, if_neg hreached]
    simp [limitSum]

theorem due_exists (limit exp : Int) : ∃ levels, Due limit exp levels := by
  obtain ⟨levels, hdue, -⟩ := levelUpLoop_due exp limit 0
  exact ⟨levels, hdue⟩

end Due

namespace LevelPlayer

/-- The player after so many levels have been paid for. -/
def raised (player : LevelPlayer K) (levels : Nat) : LevelPlayer K :=
  LevelPlayer.grow { player with
    curExp := player.curExp - limitSum player.curExpLimit levels
    curExpLimit := player.curExpLimit + growExpLimit * levels
    availableSkillPoints := player.availableSkillPoints + levels
    level := min maximumLevel (player.level + levels) } levels

theorem levelUp_raised (player : LevelPlayer K) (hlevel : player.level < maximumLevel)
    {levels : Nat} (hdue : Due player.curExpLimit player.curExp levels) :
    player.levelUp = player.raised levels := by
  obtain ⟨others, hothers, hloop⟩ := levelUpLoop_due player.curExp player.curExpLimit 0
  obtain rfl := hothers.unique hdue
  unfold levelUp
  split
  next hbelow =>
    obtain rfl := hdue.unique (due_zero hbelow)
    have hkept : min maximumLevel player.level = player.level := min_eq_right hlevel.le
    simp [raised, grow, limitSum, hkept]
  next =>
    rw [if_neg (not_le.mpr hlevel), hloop]
    have hcapped : (if maximumLevel < player.level + others then maximumLevel
        else player.level + others) = min maximumLevel (player.level + others) := by
      rw [min_def]
      split
      · rw [if_pos (by omega)]
      · split
        · omega
        · rfl
    simp [raised, setLevel, hcapped]

theorem levelUp_top (player : LevelPlayer K) (hlevel : maximumLevel ≤ player.level) :
    player.levelUp = player := by
  unfold levelUp
  rw [if_pos hlevel, ite_self]

@[simp]
theorem grow_zero (player : LevelPlayer K) : player.grow 0 = player := by
  simp [grow]

theorem grant_top {player : LevelPlayer K} (hlevel : maximumLevel ≤ player.level)
    (amount : Nat) : player.grant amount = { player with curExp := player.curExp + amount } :=
  levelUp_top { player with curExp := player.curExp + amount } hlevel

theorem grant_raised {player : LevelPlayer K} (hlevel : player.level < maximumLevel)
    {amount levels : Nat} (hdue : Due player.curExpLimit (player.curExp + amount) levels) :
    player.grant amount = raised { player with curExp := player.curExp + amount } levels :=
  levelUp_raised { player with curExp := player.curExp + amount } hlevel hdue

/-- Levels that are paid for one after the other are paid for at once. -/
theorem raised_raised (player : LevelPlayer K) (first second : Nat) (more : Int) :
    raised { player.raised first with curExp := (player.raised first).curExp + more } second =
      raised { player with curExp := player.curExp + more } (first + second) := by
  have hexp : player.curExp - limitSum player.curExpLimit first + more -
      limitSum (player.curExpLimit + growExpLimit * first) second =
      player.curExp + more - limitSum player.curExpLimit (first + second) := by
    rw [limitSum_add]
    ring
  have hlevel : min maximumLevel (min maximumLevel (player.level + first) + second) =
      min maximumLevel (player.level + (first + second : Nat)) := by
    push_cast
    omega
  simp only [raised, grow, hexp, hlevel, Nat.cast_add, mul_add, add_assoc]

/-! ## One grant and two -/

/-- When two grants do what one does: no level is paid for after the last one. -/
def SplitsAt (player : LevelPlayer K) (first second : Nat) : Prop :=
  player.level = maximumLevel ∨
  ¬ Covers player.curExpLimit (player.curExp + first) (maximumLevel - player.level).toNat ∨
  ∀ levels, Covers player.curExpLimit (player.curExp + first + second) levels →
    Covers player.curExpLimit (player.curExp + first) levels

theorem grant_grant_iff {player : LevelPlayer K} (hlevel : player.level ≤ maximumLevel)
    (first second : Nat) :
    (player.grant first).grant second = player.grant (first + second) ↔
      player.SplitsAt first second := by
  rcases hlevel.eq_or_lt with htop | hbelow
  · simp [SplitsAt, htop, grant_top, add_assoc]
  obtain ⟨paid, hpaid⟩ := due_exists player.curExpLimit (player.curExp + first)
  obtain ⟨later, hlater⟩ := due_exists (player.curExpLimit + growExpLimit * paid)
    (player.curExp + first - limitSum player.curExpLimit paid + second)
  have hboth : Due player.curExpLimit (player.curExp + first + second) (paid + later) :=
    hpaid.add (Int.natCast_nonneg second) hlater
  have hatOnce : player.grant (first + second) =
      raised { player with curExp := player.curExp + first + second } (paid + later) := by
    have hdue : Due player.curExpLimit (player.curExp + (first + second : Nat))
        (paid + later) := by
      simpa [add_assoc] using hboth
    rw [grant_raised hbelow hdue]
    simp [add_assoc]
  have hfirst := grant_raised hbelow hpaid
  have hcovers : ∀ levels, Covers player.curExpLimit (player.curExp + first) levels ↔
      levels ≤ paid := fun levels => hpaid.covers_iff
  have hall : ∀ levels, Covers player.curExpLimit (player.curExp + first + second) levels ↔
      levels ≤ paid + later := fun levels => hboth.covers_iff
  simp only [SplitsAt, hcovers, hall]
  by_cases hreached : player.level + paid < maximumLevel
  · -- the second grant is still paid out
    have hsecond : (player.grant first).grant second = player.grant (first + second) := by
      have hstill : (player.grant first).level < maximumLevel := by
        rw [hfirst]
        simp only [raised, grow]
        omega
      have hdue : Due (player.grant first).curExpLimit ((player.grant first).curExp + second)
          later := by
        rw [hfirst]
        exact hlater
      rw [grant_raised hstill hdue, hatOnce, hfirst, raised_raised]
    have hnotLast : ¬ (maximumLevel - player.level).toNat ≤ paid := by omega
    simp [hsecond, hnotLast]
  · have hstopped : (player.grant first).level = maximumLevel := by
      rw [hfirst]
      simp only [raised, grow]
      omega
    rw [grant_top hstopped.ge, hatOnce, hfirst]
    constructor
    · intro hsame
      have hpoints := congrArg LevelPlayer.availableSkillPoints hsame
      simp only [raised, grow] at hpoints
      have hzero : later = 0 := by omega
      simp [hzero]
    · intro hnone
      have hzero : later = 0 := by
        rcases hnone with htop | hshort | hnoLater
        · omega
        · omega
        · have hle := hnoLater (paid + later) le_rfl
          omega
      subst hzero
      simp only [raised, grow, Nat.add_zero, LevelPlayer.mk.injEq, and_true, true_and]
      ring

/-! ## The experience in all -/

/-- The player has been granted so much since the start, in its levels and beside them. -/
def HasEarned (start player : LevelPlayer K) (amount : Int) : Prop :=
  ∃ levels : Nat, player.curExpLimit = start.curExpLimit + growExpLimit * levels ∧
    player.curExp + limitSum start.curExpLimit levels = start.curExp + amount

omit [Field K] in
theorem hasEarned_zero (start : LevelPlayer K) : HasEarned start start 0 :=
  ⟨0, by simp, by simp [limitSum]⟩

/-- A grant is neither lost nor given twice. -/
theorem HasEarned.grant {start player : LevelPlayer K} {amount : Int}
    (hearned : HasEarned start player amount) (more : Nat) :
    HasEarned start (player.grant more) (amount + more) := by
  obtain ⟨levels, hlimit, hexp⟩ := hearned
  by_cases htop : maximumLevel ≤ player.level
  · rw [grant_top htop]
    refine ⟨levels, hlimit, ?_⟩
    simp only
    omega
  · obtain ⟨others, hdue⟩ := due_exists player.curExpLimit (player.curExp + more)
    rw [grant_raised (not_le.mp htop) hdue]
    refine ⟨levels + others, ?_, ?_⟩
    · simp only [raised, grow, hlimit]
      push_cast
      ring
    · simp only [raised, grow, limitSum_add]
      rw [hlimit]
      omega

/-! ## Runs of grants -/

/-- The skill points and the grown statistics are those of the levels that were gained. -/
structure GrownExactly (start player : LevelPlayer K) : Prop where
  level : player.level ≤ maximumLevel
  skillPoints : player.availableSkillPoints =
    start.availableSkillPoints + (player.level - start.level)
  maxHP : player.status.maxHP =
    start.status.maxHP + start.growStatus.hp * (player.level - start.level)
  hp : player.status.hp = start.status.hp + start.growStatus.hp * (player.level - start.level)
  maxStamina : player.status.maxStamina =
    start.status.maxStamina + start.growStatus.stamina * (player.level - start.level)
  stamina : player.status.stamina =
    start.status.stamina + start.growStatus.stamina * (player.level - start.level)
  hitAttack : player.status.hitAttack =
    start.status.hitAttack + start.growStatus.hitAttack * (player.level - start.level : Int)
  hitSpeed : player.status.hitSpeed =
    start.status.hitSpeed + start.growStatus.hitSpeed * (player.level - start.level : Int)
  defense : player.status.defense =
    start.status.defense + start.growStatus.defense * (player.level - start.level : Int)
  healing : player.status.healing =
    start.status.healing + start.growStatus.healing * (player.level - start.level : Int)
  healingStamina : player.status.healingStamina = start.status.healingStamina +
    start.growStatus.healingStamina * (player.level - start.level : Int)

/-- The grant pays for no level past the last one. -/
def WithinCap (player : LevelPlayer K) (amount : Nat) : Prop :=
  player.level = maximumLevel ∨
  ¬ Covers player.curExpLimit (player.curExp + amount)
    ((maximumLevel - player.level).toNat + 1)

/-- The player has been paid for so many levels, counted or not. -/
structure Paid (start : LevelPlayer K) (levels : Nat) (player : LevelPlayer K) : Prop where
  growStatus : player.growStatus = start.growStatus
  status : player.status = (start.grow levels).status
  skillPoints : player.availableSkillPoints = start.availableSkillPoints + levels
  level : player.level = min maximumLevel (start.level + levels)

section Paid

variable {start player : LevelPlayer K} {levels : Nat}

theorem paid_zero (hlevel : start.level ≤ maximumLevel) : Paid start 0 start where
  growStatus := rfl
  status := by rw [grow_zero]
  skillPoints := by simp
  level := by simp [hlevel]

theorem Paid.raised (hpaid : Paid start levels player) (more : Nat) (curExp : Int) :
    Paid start (levels + more) (LevelPlayer.raised { player with curExp } more) where
  growStatus := hpaid.growStatus
  status := by
    simp only [LevelPlayer.raised, grow, hpaid.status, hpaid.growStatus, Nat.cast_add, mul_add,
      add_assoc]
  skillPoints := by
    simp only [LevelPlayer.raised, grow, hpaid.skillPoints]
    push_cast
    ring
  level := by
    simp only [LevelPlayer.raised, grow, hpaid.level]
    push_cast
    omega

/-- A grant pays for further levels, and for none past the last one exactly within the cap. -/
theorem Paid.grant (hpaid : Paid start levels player) (amount : Nat) :
    ∃ more, Paid start (levels + more) (player.grant amount) ∧
      (start.level + levels ≤ maximumLevel →
        (player.WithinCap amount ↔ start.level + (levels + more : Nat) ≤ maximumLevel)) := by
  have hlevel := hpaid.level
  by_cases htop : maximumLevel ≤ player.level
  · have hsame : player.level = maximumLevel := by omega
    refine ⟨0, ?_, ?_⟩
    · rw [grant_top htop]
      exact ⟨hpaid.growStatus, hpaid.status, hpaid.skillPoints, hpaid.level⟩
    · intro hwithin
      simp [WithinCap, hsame, hwithin]
  · obtain ⟨more, hdue⟩ := due_exists player.curExpLimit (player.curExp + amount)
    refine ⟨more, ?_, ?_⟩
    · rw [grant_raised (not_le.mp htop) hdue]
      exact hpaid.raised more (player.curExp + amount)
    · intro hwithin
      rw [WithinCap, hdue.covers_iff]
      omega

theorem Paid.grownExactly_iff (hpaid : Paid start levels player) :
    GrownExactly start player ↔ start.level + levels ≤ maximumLevel := by
  constructor
  · intro hgrown
    have hpoints := hgrown.skillPoints
    have hskill := hpaid.skillPoints
    have hlevel := hgrown.level
    omega
  · intro hwithin
    have hlevels : player.level - start.level = levels := by
      have hlevel := hpaid.level
      omega
    constructor
    case level =>
      have hlevel := hpaid.level
      omega
    all_goals simp [hlevels, hpaid.status, hpaid.skillPoints, grow]

/-- The levels that are paid for only become more. -/
theorem Paid.run (hpaid : Paid start levels player) (amounts : List Nat) :
    ∃ more, Paid start (levels + more) (Machine.run LevelPlayer.grant player amounts) := by
  induction amounts generalizing levels player with
  | nil => exact ⟨0, hpaid⟩
  | cons amount amounts ih =>
    obtain ⟨more, hmore, -⟩ := hpaid.grant amount
    obtain ⟨others, hothers⟩ := ih hmore
    refine ⟨more + others, ?_⟩
    simpa [add_assoc] using hothers

theorem Paid.grownExactly_run_iff (hpaid : Paid start levels player)
    (hwithin : start.level + levels ≤ maximumLevel) (amounts : List Nat) :
    GrownExactly start (Machine.run LevelPlayer.grant player amounts) ↔
      Machine.Meets LevelPlayer.grant WithinCap player amounts := by
  induction amounts generalizing levels player with
  | nil => simpa [Machine.Meets] using hpaid.grownExactly_iff.mpr hwithin
  | cons amount amounts ih =>
    obtain ⟨more, hmore, hcap⟩ := hpaid.grant amount
    rw [Machine.run_cons, Machine.Meets, hcap hwithin]
    by_cases hnext : start.level + (levels + more : Nat) ≤ maximumLevel
    · simp only [hnext, true_and]
      exact ih hmore hnext
    · simp only [hnext, false_and, iff_false]
      obtain ⟨others, hothers⟩ := hmore.run amounts
      rw [hothers.grownExactly_iff]
      push_cast at hnext ⊢
      omega

end Paid

end LevelPlayer

end SurvivalArena
