import SurvivalArena.Game.EquipmentLedger
import SurvivalArena.Game.PlayerLevel
import SurvivalArena.Game.StateMachines

/-!
# Damage to a player

The two overloads of `Damaged` divide by different numbers, and which statuses a player can
have when it is hit depends on its levels and on its equipment.
-/

namespace SurvivalArena

open Function

/-- What a skill does to the one that it hits. -/
structure DamageInfo (K : Type) where
  damage : Int
  stunTime : K
  attacker : Option GameObjectId := none

variable {K : Type} [Field K] [LinearOrder K] [FloorRing K]

/-- A player with the fields that damage reads and writes beside the status. -/
structure DamagedPlayer (K : Type) [Zero K] extends LevelPlayer K where
  isStun : K := 0
  currentState : PlayerStateType := .wait
  /-- The target of the state `Counter`, where the player has that state. -/
  counter : Option (Option GameObjectId) := none
  /-- The changes that were requested of its two state machines. -/
  stateRequests : List PlayerStateType := []
  animationRequests : List AnimationStateType := []

def InInt32 (value : Int) : Prop := -2 ^ 31 ≤ value ∧ value < 2 ^ 31

instance (value : Int) : Decidable (InInt32 value) :=
  inferInstanceAs (Decidable (_ ∧ _))

/-- A division of two `int32`s, of which the second is converted from a number: nothing
outside of their range or by zero. -/
def divideDamage (baseAttack : Int) (defense : K) : Option Int :=
  let baseDefense := truncate defense
  if InInt32 baseAttack ∧ InInt32 baseDefense ∧ baseDefense ≠ 0 then
    some (baseAttack.tdiv baseDefense)
  else none

def PlayerStatus.setHP (status : PlayerStatus K) (value : Int) : PlayerStatus K :=
  { status with hp := if status.maxHP < value then status.maxHP else value }

namespace DamagedPlayer

/-- The part of both overloads after the division. -/
def lose (player : DamagedPlayer K) (finalDamage : Int) (stunTime : K) : DamagedPlayer K :=
  let playerHP := player.status.hp - finalDamage
  let isStun := if playerHP ≤ 0 then 1 else player.isStun
  { player with
    isStun := if 0 < stunTime then max isStun stunTime else isStun
    status := player.status.setHP playerHP }

/-- `Damaged` by a skill: the statement `info.defense; + 100` takes the defense alone. -/
def damagedInfo (player : DamagedPlayer K) (damage : DamageInfo K) :
    Option (DamagedPlayer K) :=
  (divideDamage (damage.damage * 100) player.status.defense).map fun finalDamage =>
    player.lose finalDamage damage.stunTime

/-- The request of the counter attack, in the skill that waits for one. -/
def requestCounter (player : DamagedPlayer K) (attacker : GameObjectId) : DamagedPlayer K :=
  match player.currentState, player.counter with
  | .skill2, some _ =>
    { player with
      counter := some (some attacker)
      stateRequests := player.stateRequests ++ [.counter]
      animationRequests := player.animationRequests ++ [.counter] }
  | _, _ => player

/-- `Damaged` by a monster. -/
def damaged (player : DamagedPlayer K) (attacker : GameObjectId) (damage : Int) :
    Option (DamagedPlayer K) :=
  let player := player.requestCounter attacker
  (divideDamage (damage * 100) (player.status.defense + 100)).map fun finalDamage =>
    player.lose finalDamage 0

end DamagedPlayer

/-! ## What equipment and levels leave of the initial statistics -/

/-- What happens to a player that changes its status for good. -/
inductive PlayerEvent where
  | grant (amount : Nat)
  | wear (item : ItemRef)
  | takeOff (index : Fin 5)

/-- Only equipment can be put on. -/
def LevelPlayer.step (items : ItemRef → Item K) (player : LevelPlayer K) :
    PlayerEvent → LevelPlayer K
  | .grant amount => player.grant amount
  | .wear item =>
    match (items item).equipable with
    | some (equipType, status) =>
      { player with toPlayer := player.toPlayer.wearEquipment items item equipType status }
    | none => player
  | .takeOff index => { player with toPlayer := player.toPlayer.takeOffEquipment items index }

def ItemStatus.Nonneg (status : ItemStatus K) : Prop :=
  ∀ statistic : Statistic, 0 ≤ statistic.ofItem status

/-- Equipment never lowers a statistic. -/
def NonnegItems (items : ItemRef → Item K) : Prop :=
  ∀ item equipType status, (items item).equipable = some (equipType, status) → status.Nonneg

/-- The statistics are those of the base and of the items that the player wears, or more. -/
def CoversBase (items : ItemRef → Item K) (base : Statistic → K) (player : Player K) : Prop :=
  ∀ statistic : Statistic,
    base statistic + ∑ index, statistic.ofContent items (player.curEquipment index) ≤
      statistic.ofPlayer player.status

structure Sturdy (items : ItemRef → Item K) (base : Statistic → K) (player : Player K) :
    Prop where
  covers : CoversBase items base player
  hp : player.status.hp ≤ player.status.maxHP

section Sturdy

variable {items : ItemRef → Item K} {base : Statistic → K} {player : Player K}

theorem takeOffEquipment_full (index : Fin 5) (hfull : ¬ player.HasRoom) :
    player.takeOffEquipment items index = player := by
  have hnone : player.inventory.findIdx? Option.isNone = none := not_not.mp hfull
  unfold Player.takeOffEquipment
  rw [hnone]
  cases player.curEquipment index <;> rfl

theorem takeOffEquipment_status (items : ItemRef → Item K) (player : Player K) (index : Fin 5) :
    (player.takeOffEquipment items index).status = player.status ∨
      ∃ equipStatus, (player.takeOffEquipment items index).status =
        player.status.releaseEquipStatus equipStatus := by
  unfold Player.takeOffEquipment
  split
  next =>
    split
    next equipStatus _ => exact .inr ⟨equipStatus, rfl⟩
    next => exact .inl rfl
  next => exact .inl rfl

variable [IsStrictOrderedRing K]

/-- A part of a maximum stays below it. -/
theorem hp_ratio_le {maxHP hp after : Int} (hmaxHP : 0 < maxHP) (hhp : hp ≤ maxHP)
    (hafter : 0 < after) : truncate ((after : K) * ((hp : K) / (maxHP : K))) ≤ after := by
  have hpositive : (0 : K) < maxHP := Int.cast_pos.mpr hmaxHP
  have hratio : (hp : K) / maxHP ≤ 1 := (div_le_one hpositive).mpr (Int.cast_le.mpr hhp)
  have hnonneg : (0 : K) ≤ after := Int.cast_nonneg hafter.le
  exact truncate_le (mul_le_of_le_one_right hnonneg hratio)

omit [FloorRing K] [IsStrictOrderedRing K] in
theorem ofContent_nonneg (hitems : NonnegItems items) (statistic : Statistic)
    (content : Option ItemRef) : 0 ≤ statistic.ofContent items content := by
  cases content with
  | none => exact le_rfl
  | some item =>
    unfold Statistic.ofContent
    cases hequipable : (items item).equipable with
    | none => simp [hequipable]
    | some equipable => simpa [hequipable] using hitems item _ _ hequipable statistic

omit [FloorRing K] in
theorem CoversBase.base_le (h : CoversBase items base player) (hitems : NonnegItems items)
    (statistic : Statistic) : base statistic ≤ statistic.ofPlayer player.status := by
  have hcontents : 0 ≤ ∑ index, statistic.ofContent items (player.curEquipment index) :=
    Finset.sum_nonneg fun index _ => ofContent_nonneg hitems statistic _
  exact (le_add_of_nonneg_right hcontents).trans (h statistic)

omit [FloorRing K] in
theorem CoversBase.maxHP_pos (h : CoversBase items base player) (hitems : NonnegItems items)
    (hbase : 0 < base .maxHP) : 0 < player.status.maxHP := by
  have hpositive : (0 : K) < player.status.maxHP := hbase.trans_le (h.base_le hitems .maxHP)
  exact Int.cast_pos.mp hpositive

theorem CoversBase.takeOff (h : CoversBase items base player) (index : Fin 5) :
    CoversBase items base (player.takeOffEquipment items index) := by
  by_cases hroom : player.HasRoom
  · intro statistic
    have hbefore := h statistic
    obtain ⟨hplaces, hstatistic⟩ :=
      Player.takeOffEquipment_ledger items index hroom statistic
    have hsum := Slots.sum_update (statistic.ofContent items) player.curEquipment index none
    have hnone : statistic.ofContent items none = 0 := rfl
    rw [hnone, add_zero] at hsum
    rw [hplaces]
    rw [← hsum, ← add_assoc, ← hstatistic] at hbefore
    exact le_of_add_le_add_right hbefore
  · rw [takeOffEquipment_full index hroom]
    exact h

theorem Sturdy.takeOff (h : Sturdy items base player) (hitems : NonnegItems items)
    (hbase : 0 < base .maxHP) (index : Fin 5) :
    Sturdy items base (player.takeOffEquipment items index) := by
  have hcovers := h.covers.takeOff index
  refine ⟨hcovers, ?_⟩
  have hbefore := h.covers.maxHP_pos hitems hbase
  have hafter := hcovers.maxHP_pos hitems hbase
  rcases takeOffEquipment_status items player index with
    hsame | ⟨equipStatus, hreleased⟩
  · rw [hsame]
    exact h.hp
  · rw [hreleased] at hafter ⊢
    exact hp_ratio_le hbefore h.hp hafter

/-- An item goes to a place, whatever was there, and its status is applied. -/
theorem Sturdy.place (h : Sturdy items base player) (hitems : NonnegItems items)
    (hbase : 0 < base .maxHP) {item : ItemRef} {equipType : EquipmentType}
    {equipStatus : ItemStatus K}
    (hequipable : (items item).equipable = some (equipType, equipStatus))
    {curEquipment : Fin 5 → Option ItemRef} (hplaced : curEquipment = player.curEquipment ∨
      ∃ index, curEquipment = update player.curEquipment index (some item)) :
    Sturdy items base { player with
      curEquipment
      status := player.status.applyEquipStatus equipStatus } := by
  have hcontent : ∀ statistic : Statistic,
      statistic.ofContent items (some item) = statistic.ofItem equipStatus := by
    intro statistic
    simp [Statistic.ofContent, hequipable]
  have hitem := hitems item equipType equipStatus hequipable
  have hcovers : CoversBase items base { player with
      curEquipment
      status := player.status.applyEquipStatus equipStatus } := by
    intro statistic
    have hbefore := h.covers statistic
    have hnonneg := hitem statistic
    simp only [Statistic.applyEquipStatus]
    rcases hplaced with rfl | ⟨index, rfl⟩
    · exact hbefore.trans (le_add_of_nonneg_right hnonneg)
    · have hsum := Slots.sum_update (statistic.ofContent items) player.curEquipment index
        (some item)
      have hold := ofContent_nonneg hitems statistic (player.curEquipment index)
      rw [hcontent] at hsum
      linarith
  refine ⟨hcovers, ?_⟩
  have hbefore := h.covers.maxHP_pos hitems hbase
  have hafter := hcovers.maxHP_pos hitems hbase
  exact hp_ratio_le hbefore h.hp hafter

omit [FloorRing K] [IsStrictOrderedRing K] in
theorem Sturdy.takeFromInventory (h : Sturdy items base player) (item : ItemRef) :
    Sturdy items base (player.takeFromInventory item) := by
  obtain ⟨hstatus, hcurEquipment⟩ := Player.takeFromInventory_status player item
  constructor
  · intro statistic
    rw [hstatus, hcurEquipment]
    exact h.covers statistic
  · rw [hstatus]
    exact h.hp

theorem Sturdy.wear (h : Sturdy items base player) (hitems : NonnegItems items)
    (hbase : 0 < base .maxHP) {item : ItemRef} {equipType : EquipmentType}
    {equipStatus : ItemStatus K}
    (hequipable : (items item).equipable = some (equipType, equipStatus)) :
    Sturdy items base (player.wearEquipment items item equipType equipStatus) := by
  have htaken := h.takeFromInventory item
  unfold Player.wearEquipment
  cases Player.wearIndex equipType with
  | none => exact htaken.place hitems hbase hequipable (.inl rfl)
  | some index =>
    exact (htaken.takeOff hitems hbase index).place hitems hbase hequipable (.inr ⟨index, rfl⟩)

/-! ### Levels -/

/-- What a level adds to a statistic. -/
def Statistic.ofGrowth (growStatus : PlayerGrowStatus K) : Statistic → K
  | maxHP => growStatus.hp
  | maxStamina => growStatus.stamina
  | hitAttack => growStatus.hitAttack
  | hitSpeed => growStatus.hitSpeed
  | defense => growStatus.defense
  | cooldownReduction => 0
  | healing => growStatus.healing
  | healingStamina => growStatus.healingStamina

/-- A player that is never weaker than its base, and that no level makes weaker. -/
structure Seasoned (items : ItemRef → Item K) (base : Statistic → K) (player : LevelPlayer K) :
    Prop where
  sturdy : Sturdy items base player.toPlayer
  growth : ∀ statistic : Statistic, 0 ≤ statistic.ofGrowth player.growStatus

omit [LinearOrder K] [FloorRing K] [IsStrictOrderedRing K] in
theorem grow_statistic (player : LevelPlayer K) (levels : Nat) (statistic : Statistic) :
    statistic.ofPlayer (player.grow levels).status =
      statistic.ofPlayer player.status + statistic.ofGrowth player.growStatus * levels := by
  cases statistic <;> simp [Statistic.ofPlayer, Statistic.ofGrowth, LevelPlayer.grow]

omit [FloorRing K] in
theorem Seasoned.grow {player : LevelPlayer K} (h : Seasoned items base player)
    (levels : Nat) : Seasoned items base (player.grow levels) := by
  refine ⟨⟨?_, ?_⟩, h.growth⟩
  · intro statistic
    have hgrown : 0 ≤ statistic.ofGrowth player.growStatus * levels :=
      mul_nonneg (h.growth statistic) (Nat.cast_nonneg levels)
    rw [grow_statistic]
    exact (h.sturdy.covers statistic).trans (le_add_of_nonneg_right hgrown)
  · exact add_le_add_left h.sturdy.hp _

omit [FloorRing K] in
theorem Seasoned.grant {player : LevelPlayer K} (h : Seasoned items base player)
    (amount : Nat) : Seasoned items base (player.grant amount) := by
  by_cases htop : maximumLevel ≤ player.level
  · rw [LevelPlayer.grant_top htop]
    exact ⟨⟨h.sturdy.covers, h.sturdy.hp⟩, h.growth⟩
  · obtain ⟨levels, hdue⟩ := due_exists player.curExpLimit (player.curExp + amount)
    rw [LevelPlayer.grant_raised (not_le.mp htop) hdue]
    refine Seasoned.grow ?_ levels
    exact ⟨⟨h.sturdy.covers, h.sturdy.hp⟩, h.growth⟩

theorem Seasoned.step {player : LevelPlayer K} (h : Seasoned items base player)
    (hitems : NonnegItems items) (hbase : 0 < base .maxHP) (event : PlayerEvent) :
    Seasoned items base (player.step items event) := by
  cases event with
  | grant amount => exact h.grant amount
  | wear item =>
    cases hequipable : (items item).equipable with
    | none => simpa [LevelPlayer.step, hequipable] using h
    | some equipable =>
      simp only [LevelPlayer.step, hequipable]
      exact ⟨h.sturdy.wear hitems hbase hequipable, h.growth⟩
  | takeOff index => exact ⟨h.sturdy.takeOff hitems hbase index, h.growth⟩

end Sturdy

/-! ## The law of damage -/

/-- The players as they are made: the fields of `Player`, and the two characters. -/
inductive Starts : LevelPlayer K → Prop where
  | player : Starts LevelPlayer.novice
  | nicky : Starts LevelPlayer.nicky
  | bianca : Starts LevelPlayer.bianca

section Starts

variable [IsStrictOrderedRing K] {start : LevelPlayer K}

omit [FloorRing K] in
theorem Starts.defense_le (hstart : Starts start) : 30 ≤ start.status.defense := by
  cases hstart <;> norm_num [LevelPlayer.novice, LevelPlayer.nicky, LevelPlayer.bianca]

omit [FloorRing K] in
theorem Starts.seasoned (hstart : Starts start) (items : ItemRef → Item K) :
    Seasoned items (fun statistic => statistic.ofPlayer start.status) start := by
  have hnothing : start.curEquipment = fun _ => none := by cases hstart <;> rfl
  refine ⟨⟨?_, ?_⟩, ?_⟩
  · intro statistic
    simp [hnothing, Statistic.ofContent]
  · cases hstart <;> exact le_rfl
  · intro statistic
    cases hstart <;> cases statistic <;>
      norm_num [Statistic.ofGrowth, LevelPlayer.novice, LevelPlayer.nicky, LevelPlayer.bianca]

omit [FloorRing K] in
theorem Starts.maxHP_pos (hstart : Starts start) : (0 : K) < start.status.maxHP := by
  cases hstart <;> norm_num [LevelPlayer.novice, LevelPlayer.nicky, LevelPlayer.bianca]

/-- Whatever levels and equipment do, the defense stays above the initial one and the hp
below its maximum. -/
theorem Starts.run_seasoned (hstart : Starts start) {items : ItemRef → Item K}
    (hitems : NonnegItems items) (events : List PlayerEvent) :
    Seasoned items (fun statistic => statistic.ofPlayer start.status)
      (Machine.run (LevelPlayer.step items) start events) := by
  refine Machine.run_invariant (P := fun _ => True) ?_ (hstart.seasoned items)
    (fun _ _ => trivial)
  intro player event _ h
  exact h.step hitems hstart.maxHP_pos event

theorem Starts.run_defense_le (hstart : Starts start) {items : ItemRef → Item K}
    (hitems : NonnegItems items) (events : List PlayerEvent) :
    30 ≤ (Machine.run (LevelPlayer.step items) start events).status.defense :=
  hstart.defense_le.trans
    ((hstart.run_seasoned hitems events).sturdy.covers.base_le hitems .defense)

end Starts

/-- The hp that damage leaves, where the division is defined. -/
def hpAfter (after : Option (DamagedPlayer K)) : Option Int :=
  after.map fun player => player.status.hp

/-- Both overloads take the same part of the hp, by a divisor that is not zero, and a
higher defense leaves no less of it. -/
structure DamageLaw (player : DamagedPlayer K) (damage loss : Int) : Prop where
  divisor : truncate (player.status.defense + 100) ≠ 0
  formula : loss = (damage * 100).tdiv (truncate (player.status.defense + 100))
  bySkill : ∀ stunTime ≤ 0, ∀ attacker,
    hpAfter (player.damagedInfo ⟨damage, stunTime, attacker⟩) = some (player.status.hp - loss)
  byMonster : ∀ attacker,
    hpAfter (player.damaged attacker damage) = some (player.status.hp - loss)
  le_damage : loss ≤ damage
  nonincreasing : ∀ defense, player.status.defense ≤ defense →
    (∀ stunTime ≤ 0, ∀ attacker, ∀ hp ∈ hpAfter
      ({ player with status.defense := defense }.damagedInfo ⟨damage, stunTime, attacker⟩),
      player.status.hp - loss ≤ hp) ∧
    ∀ attacker, ∀ hp ∈ hpAfter
      ({ player with status.defense := defense }.damaged attacker damage),
      player.status.hp - loss ≤ hp

/-- The hundredfold damage reaches the same multiple of the defense and of the defense and
a hundred more. -/
def SameQuotient (damage : Int) (defense : K) : Prop :=
  ∃ quotient : Int, quotient * (truncate defense + 100) ≤ damage * 100 ∧
    damage * 100 < (quotient + 1) * truncate defense

section Law

variable {baseAttack damage : Int} {defense : K}

theorem divideDamage_eq_some_iff {loss : Int} : divideDamage baseAttack defense = some loss ↔
    (InInt32 baseAttack ∧ InInt32 (truncate defense) ∧ truncate defense ≠ 0) ∧
      baseAttack.tdiv (truncate defense) = loss := by
  simp [divideDamage]

theorem damagedInfo_hp (player : DamagedPlayer K) (info : DamageInfo K) :
    hpAfter (player.damagedInfo info) =
      (divideDamage (info.damage * 100) player.status.defense).map fun finalDamage =>
        (player.status.setHP (player.status.hp - finalDamage)).hp := by
  simp only [hpAfter, DamagedPlayer.damagedInfo, Option.map_map]
  rfl

/-- The counter attack has no part in the damage. -/
theorem damaged_hp (player : DamagedPlayer K) (attacker : GameObjectId) (damage : Int) :
    hpAfter (player.damaged attacker damage) =
      (divideDamage (damage * 100) (player.status.defense + 100)).map fun finalDamage =>
        (player.status.setHP (player.status.hp - finalDamage)).hp := by
  have hstatus : (player.requestCounter attacker).status = player.status := by
    unfold DamagedPlayer.requestCounter
    split <;> rfl
  simp only [hpAfter, DamagedPlayer.damaged, Option.map_map, hstatus]
  congr 1
  funext finalDamage
  simp [DamagedPlayer.lose, hstatus]

omit [FloorRing K] [LinearOrder K] [Field K] in
theorem setHP_of_le {status : PlayerStatus K} {value : Int} (h : value ≤ status.maxHP) :
    (status.setHP value).hp = value :=
  if_neg (not_lt.mpr h)

/-! ### The quotients -/

theorem tdiv_lt_of_neg {attack divisor : Int} (hattack : attack < 0) (hdivisor : 100 < divisor) :
    attack < (attack * 100).tdiv divisor := by
  have hnonneg : 0 ≤ -attack * 100 := by omega
  have hsmaller : -attack * 100 / divisor < -attack := by
    refine Int.ediv_lt_of_lt_mul (by omega) ?_
    exact mul_lt_mul_of_pos_left hdivisor (by omega)
  have hneg : (attack * 100).tdiv divisor = -(-attack * 100 / divisor) := by
    rw [← Int.tdiv_eq_ediv_of_nonneg hnonneg, ← Int.neg_tdiv, neg_mul, neg_neg]
  omega

/-- A greater divisor gives no greater quotient. -/
theorem ediv_le_ediv_of_divisor_le {attack first second : Int} (hattack : 0 ≤ attack)
    (hfirst : 0 < first) (hle : first ≤ second) : attack / second ≤ attack / first := by
  have hquotient : 0 ≤ attack / second := Int.ediv_nonneg hattack (by omega)
  refine Int.le_ediv_of_mul_le hfirst ?_
  calc attack / second * first ≤ attack / second * second :=
        mul_le_mul_of_nonneg_left hle hquotient
    _ ≤ attack := Int.ediv_mul_le attack (by omega)

theorem ediv_eq_ediv_iff {attack first second : Int} (hattack : 0 ≤ attack)
    (hfirst : 0 < first) (hle : first ≤ second) : attack / first = attack / second ↔
      ∃ quotient, quotient * second ≤ attack ∧ attack < (quotient + 1) * first := by
  constructor
  · intro hsame
    refine ⟨attack / second, Int.ediv_mul_le attack (by omega), ?_⟩
    rw [← hsame]
    exact Int.lt_ediv_add_one_mul_self attack hfirst
  · intro hquotient
    obtain ⟨quotient, hlow, hhigh⟩ := hquotient
    have hmono := ediv_le_ediv_of_divisor_le hattack hfirst hle
    have hbelow : quotient ≤ attack / second := Int.le_ediv_of_mul_le (by omega) hlow
    have habove : attack / first < quotient + 1 := Int.ediv_lt_of_lt_mul hfirst hhigh
    omega

/-! ### The law of one hit -/

variable [IsStrictOrderedRing K]

theorem truncate_add_hundred (h : 0 ≤ defense) :
    truncate (defense + 100) = truncate defense + 100 := by
  rw [truncate_of_nonneg h, truncate_of_nonneg (by positivity)]
  exact_mod_cast Int.floor_add_natCast defense 100

omit [IsStrictOrderedRing K] in
theorem one_le_truncate (h : 1 ≤ defense) : 1 ≤ truncate defense := by
  rw [truncate_of_nonneg (zero_le_one.trans h)]
  exact Int.le_floor.mpr (by simpa using h)

/-- Where both divisions are defined, neither is where the bound on the greater divisor
fails. -/
theorem divideDamage_of_bound (hfits : InInt32 (damage * 100)) (hdefense : 1 ≤ defense)
    (hbound : truncate (defense + 100) < 2 ^ 31) :
    divideDamage (damage * 100) defense = some ((damage * 100).tdiv (truncate defense)) ∧
      divideDamage (damage * 100) (defense + 100) =
        some ((damage * 100).tdiv (truncate (defense + 100))) := by
  have hnonneg : 0 ≤ defense := zero_le_one.trans hdefense
  have hone := one_le_truncate hdefense
  rw [truncate_add_hundred hnonneg] at hbound
  simp only [divideDamage_eq_some_iff, and_true, truncate_add_hundred hnonneg]
  unfold InInt32 at hfits ⊢
  omega

variable {player : DamagedPlayer K}

omit [LinearOrder K] [FloorRing K] [IsStrictOrderedRing K] in
/-- A quotient that is not negative leaves its complement of the hp. -/
theorem lose_hp (hhp : player.status.hp ≤ player.status.maxHP) {loss : Int} (hloss : 0 ≤ loss) :
    (player.status.setHP (player.status.hp - loss)).hp = player.status.hp - loss :=
  setHP_of_le (by omega)

theorem DamageLaw.damage_nonneg {loss : Int} (hlaw : DamageLaw player damage loss)
    (hdefense : 1 ≤ player.status.defense) : 0 ≤ damage := by
  by_contra hneg
  have hone := one_le_truncate hdefense
  have hformula := hlaw.formula
  rw [truncate_add_hundred (zero_le_one.trans hdefense)] at hformula
  have hmore := tdiv_lt_of_neg (not_le.mp hneg)
    (show 100 < truncate player.status.defense + 100 by omega)
  have hle := hlaw.le_damage
  omega

omit [IsStrictOrderedRing K] in
theorem DamageLaw.bound {loss : Int} (hlaw : DamageLaw player damage loss) :
    truncate (player.status.defense + 100) < 2 ^ 31 := by
  have hmonster := hlaw.byMonster 0
  rw [damaged_hp, Option.map_eq_some_iff] at hmonster
  obtain ⟨finalDamage, hdivided, -⟩ := hmonster
  exact (divideDamage_eq_some_iff.mp hdivided).1.2.1.2

omit [IsStrictOrderedRing K] in
/-- A greater divisor leaves no less of the hp. -/
theorem keeps_hp (hhp : player.status.hp ≤ player.status.maxHP) (hdamage : 0 ≤ damage)
    {divisor : Int} (hdivisor : 0 < divisor) {loss : Int}
    (hdivided : divideDamage (damage * 100) defense = some loss)
    (hle : divisor ≤ truncate defense) :
    player.status.hp - damage * 100 / divisor ≤
      (player.status.setHP (player.status.hp - loss)).hp := by
  have hattack : 0 ≤ damage * 100 := by omega
  have hloss := (divideDamage_eq_some_iff.mp hdivided).2
  rw [Int.tdiv_eq_ediv_of_nonneg hattack] at hloss
  have hsmaller := ediv_le_ediv_of_divisor_le hattack hdivisor hle
  have hnonneg : 0 ≤ damage * 100 / truncate defense := Int.ediv_nonneg hattack (by omega)
  rw [lose_hp hhp (by omega)]
  omega

theorem damageLaw_iff (hdefense : 1 ≤ player.status.defense)
    (hhp : player.status.hp ≤ player.status.maxHP) (hfits : InInt32 (damage * 100)) :
    (∃ loss, DamageLaw player damage loss) ↔
      0 ≤ damage ∧ truncate (player.status.defense + 100) < 2 ^ 31 ∧
        SameQuotient damage player.status.defense := by
  have hnonneg : 0 ≤ player.status.defense := zero_le_one.trans hdefense
  have hone := one_le_truncate hdefense
  have hhundred := truncate_add_hundred hnonneg
  have hquotients : ∀ {divisor : Int}, 0 ≤ damage →
      (damage * 100).tdiv divisor = damage * 100 / divisor := by
    intro divisor hdamage
    exact Int.tdiv_eq_ediv_of_nonneg (by omega)
  have hsame : 0 ≤ damage → (SameQuotient damage player.status.defense ↔
      damage * 100 / truncate player.status.defense =
        damage * 100 / (truncate player.status.defense + 100)) := by
    intro hdamage
    exact (ediv_eq_ediv_iff (by omega) (by omega) (by omega)).symm
  constructor
  · intro hlaw
    obtain ⟨loss, hlaw⟩ := hlaw
    have hdamage := hlaw.damage_nonneg hdefense
    have hbound := hlaw.bound
    obtain ⟨hskill, hmonster⟩ := divideDamage_of_bound hfits hdefense hbound
    refine ⟨hdamage, hbound, (hsame hdamage).mpr ?_⟩
    have hformula := hlaw.formula
    have hhit := hlaw.bySkill 0 le_rfl none
    have hloss : 0 ≤ damage * 100 / truncate player.status.defense :=
      Int.ediv_nonneg (by omega) (by omega)
    rw [damagedInfo_hp, hskill, hquotients hdamage, Option.map_some, lose_hp hhp hloss] at hhit
    rw [hquotients hdamage, hhundred] at hformula
    have hlost := Option.some.inj hhit
    omega
  · intro hcondition
    obtain ⟨hdamage, hbound, hquotient⟩ := hcondition
    obtain ⟨hskill, hmonster⟩ := divideDamage_of_bound hfits hdefense hbound
    have hagree := (hsame hdamage).mp hquotient
    have hloss : 0 ≤ damage * 100 / (truncate player.status.defense + 100) :=
      Int.ediv_nonneg (by omega) (by omega)
    rw [hquotients hdamage] at hskill hmonster
    rw [hhundred] at hmonster
    refine ⟨damage * 100 / (truncate player.status.defense + 100), ?_, ?_, ?_, ?_, ?_, ?_⟩
    · omega
    · rw [hhundred, hquotients hdamage]
    · intro stunTime _ attacker
      rw [damagedInfo_hp, hskill, Option.map_some, hagree, lose_hp hhp hloss]
    · intro attacker
      rw [damaged_hp, hmonster, Option.map_some, lose_hp hhp hloss]
    · refine Int.ediv_le_of_le_mul (by omega) ?_
      exact mul_le_mul_of_nonneg_left (by omega) hdamage
    · intro defense hle
      have hmore := truncate_mono hle
      constructor
      · intro stunTime _ attacker hp hleft
        rw [damagedInfo_hp, Option.mem_def, Option.map_eq_some_iff] at hleft
        obtain ⟨finalDamage, hdivided, rfl⟩ := hleft
        rw [← hagree]
        exact keeps_hp hhp hdamage (by omega) hdivided hmore
      · intro attacker hp hleft
        rw [damaged_hp, Option.mem_def, Option.map_eq_some_iff] at hleft
        obtain ⟨finalDamage, hdivided, rfl⟩ := hleft
        refine keeps_hp hhp hdamage (by omega) hdivided ?_
        rw [truncate_add_hundred (hnonneg.trans hle)]
        omega

end Law

/-- Cloth armour, and nothing else. -/
def clothArmour : ItemRef → Item ℚ :=
  fun _ => ⟨202103, .equipable .chest ⟨0, 9, 0, 0, 0, 0, 0, 0⟩⟩

end SurvivalArena
