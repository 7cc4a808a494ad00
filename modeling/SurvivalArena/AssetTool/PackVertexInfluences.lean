import SurvivalArena.Exception
import SurvivalArena.Framework.Extended
import SurvivalArena.Framework.KeyedList
import SurvivalArena.Framework.UIntOrder

/-!
# Skin influences

The influences of a vertex, packed into the four joints of the greatest weights.  The packing
depends on the total weight of each joint only.
-/

namespace SurvivalArena

open KeyedList

def maximumSkinJoints : Nat := 64

structure JointInfluence (R : Type) where
  jointIndex : UInt16
  weight : R
deriving DecidableEq

structure PackedInfluences (R : Type) where
  jointIndices : Vector UInt16 4
  jointWeights : Vector R 4

section Code

variable {R : Type} [Scalar R]

/-- An influence added to the weight of its joint. -/
def addInfluence (weights : Vector R maximumSkinJoints) (influence : JointInfluence R) :
    Except Exception (Vector R maximumSkinJoints) :=
  if h : influence.jointIndex.toNat < maximumSkinJoints ∧
      Scalar.isFinite influence.weight = true ∧ ¬influence.weight < 0 then
    .ok (weights.set influence.jointIndex.toNat
      (weights.get ⟨influence.jointIndex.toNat, h.1⟩ + influence.weight) h.1)
  else .error (.runtimeError "joint influence is outside the supported range")

/-- The order of the ranking: heavier first, then the lower index. -/
def heavierFirst (left right : JointInfluence R) : Bool :=
  if Scalar.equal left.weight right.weight then decide (left.jointIndex < right.jointIndex)
  else decide (right.weight < left.weight)

def rankInfluences (weights : Vector R maximumSkinJoints) : List (JointInfluence R) :=
  (((List.finRange maximumSkinJoints).map fun jointIndex : Fin maximumSkinJoints =>
    (⟨UInt16.ofNat jointIndex.val, weights.get jointIndex⟩ : JointInfluence R)).filter
      fun influence => 0 < influence.weight).insertionSort
        fun left right => heavierFirst right left = false

def packRanked (ranked : List (JointInfluence R)) : PackedInfluences R :=
  let totalWeight := (ranked.map JointInfluence.weight).foldl (· + ·) 0
  { jointIndices := .ofFn fun index => (ranked[index]?.map JointInfluence.jointIndex).getD 0
    jointWeights := .ofFn fun index =>
      (ranked[index]?.map fun influence => influence.weight / totalWeight).getD 0 }

def packVertexInfluences (influences : List (JointInfluence R)) :
    Except Exception (PackedInfluences R) := do
  let weights ← influences.foldlM addInfluence (Vector.replicate maximumSkinJoints 0)
  pure (packRanked ((rankInfluences weights).take 4))

end Code

section Exact

variable {K : Type} [Field K] [LinearOrder K] [FloorRing K] [SquareRoot K]

/-! ## Totals -/

/-- The total weight of a joint. -/
def totalWeight (influences : List (JointInfluence K)) (joint : UInt16) : K :=
  ((influences.filter fun influence => influence.jointIndex = joint).map
    JointInfluence.weight).sum

/-- The influences are of joints of a skeleton, with weights that are not negative. -/
def Supported (influences : List (JointInfluence K)) : Prop :=
  ∀ influence ∈ influences,
    influence.jointIndex.toNat < maximumSkinJoints ∧ 0 ≤ influence.weight

instance (influences : List (JointInfluence K)) : Decidable (Supported influences) :=
  inferInstanceAs (Decidable (∀ influence ∈ influences, _))

omit [LinearOrder K] [FloorRing K] [SquareRoot K] in
theorem totalWeight_cons (influence : JointInfluence K) (influences : List (JointInfluence K))
    (joint : UInt16) : totalWeight (influence :: influences) joint =
      (if influence.jointIndex = joint then influence.weight else 0) +
        totalWeight influences joint := by
  unfold totalWeight
  by_cases h : influence.jointIndex = joint <;> simp [h]

omit [LinearOrder K] [FloorRing K] [SquareRoot K] in
theorem totalWeight_perm {influences others : List (JointInfluence K)}
    (h : influences.Perm others) : totalWeight influences = totalWeight others :=
  funext fun _ => ((h.filter _).map _).sum_eq

omit [LinearOrder K] [FloorRing K] [SquareRoot K] in
/-- Two influences of one joint weigh what their sum does. -/
theorem totalWeight_merge (joint : UInt16) (a b : K) (influences : List (JointInfluence K)) :
    totalWeight (⟨joint, a⟩ :: ⟨joint, b⟩ :: influences) =
      totalWeight (⟨joint, a + b⟩ :: influences) := by
  funext other
  simp only [totalWeight_cons]
  split <;> ring

/-- The weights of the joints, in their order. -/
def weightsOf (total : UInt16 → K) : Vector K maximumSkinJoints :=
  .ofFn fun jointIndex => total (UInt16.ofNat jointIndex)

omit [Field K] [LinearOrder K] [FloorRing K] [SquareRoot K] in
theorem weightsOf_get (total : UInt16 → K) {joint : UInt16}
    (h : joint.toNat < maximumSkinJoints) :
    (weightsOf total).get ⟨joint.toNat, h⟩ = total joint := by
  show (weightsOf total)[joint.toNat] = total joint
  rw [weightsOf, Vector.getElem_ofFn, UInt16.ofNat_toNat]

omit [Field K] [LinearOrder K] [FloorRing K] [SquareRoot K] in
theorem weightsOf_set (total : UInt16 → K) {joint : UInt16} (h : joint.toNat < maximumSkinJoints)
    (x : K) : (weightsOf total).set joint.toNat x h =
      weightsOf fun other => if joint = other then x else total other := by
  ext index hindex
  have hsize : index < 2 ^ 16 := hindex.trans (by decide)
  have hsame : joint.toNat = index ↔ joint = UInt16.ofNat index := by
    rw [← UInt16.toNat_inj, UInt16.toNat_ofNat_of_lt' hsize]
  simp only [weightsOf, Vector.getElem_set, Vector.getElem_ofFn, hsame]

/-- The loop adds the totals of what it has seen to the weights it began with. -/
theorem foldlM_addInfluence (influences : List (JointInfluence K)) (total : UInt16 → K) :
    (Supported influences → influences.foldlM (@addInfluence K .exact) (weightsOf total) =
      .ok (weightsOf fun joint => total joint + totalWeight influences joint)) ∧
    (¬Supported influences → influences.foldlM (@addInfluence K .exact) (weightsOf total) =
      .error (.runtimeError "joint influence is outside the supported range")) := by
  induction influences generalizing total with
  | nil =>
    refine ⟨fun _ => ?_, fun h => absurd nofun h⟩
    simp [totalWeight]
    rfl
  | cons influence influences ih =>
    rw [List.foldlM_cons]
    by_cases hhead : influence.jointIndex.toNat < maximumSkinJoints ∧ 0 ≤ influence.weight
    · have hadd : @addInfluence K .exact (weightsOf total) influence =
          .ok (weightsOf fun joint => total joint +
            if influence.jointIndex = joint then influence.weight else 0) := by
        refine (dif_pos ⟨hhead.1, rfl, not_lt.mpr hhead.2⟩).trans ?_
        rw [weightsOf_set]
        refine congrArg Except.ok (congrArg weightsOf (funext fun joint => ?_))
        by_cases hjoint : influence.jointIndex = joint
        · rw [if_pos hjoint, if_pos hjoint, ← hjoint]
          exact congrArg (· + influence.weight) (weightsOf_get total hhead.1)
        · rw [if_neg hjoint, if_neg hjoint, add_zero]
      obtain ⟨hsupported, hrefused⟩ := ih fun joint => total joint +
        if influence.jointIndex = joint then influence.weight else 0
      have hsame : Supported (influence :: influences) ↔ Supported influences :=
        List.forall_mem_cons.trans (and_iff_right hhead)
      rw [hadd, hsame]
      refine ⟨fun h => (hsupported h).trans ?_, hrefused⟩
      simp only [totalWeight_cons, add_assoc]
    · have hthrows : @addInfluence K .exact (weightsOf total) influence =
          .error (.runtimeError "joint influence is outside the supported range") :=
        dif_neg fun h => hhead ⟨h.1, not_lt.mp h.2.2⟩
      rw [hthrows]
      exact ⟨fun h => absurd (List.forall_mem_cons.mp h).1 hhead, fun _ => rfl⟩

theorem packVertexInfluences_eq (influences : List (JointInfluence K)) :
    (Supported influences → @packVertexInfluences K .exact influences =
      .ok (@packRanked K .exact ((@rankInfluences K .exact
        (weightsOf (totalWeight influences))).take 4))) ∧
    (¬Supported influences → @packVertexInfluences K .exact influences =
      .error (.runtimeError "joint influence is outside the supported range")) := by
  have hempty : Vector.replicate maximumSkinJoints (0 : K) = weightsOf fun _ => 0 := by
    ext index hindex
    rw [weightsOf, Vector.getElem_replicate, Vector.getElem_ofFn]
  obtain ⟨hsupported, hrefused⟩ := foldlM_addInfluence influences fun _ => 0
  simp only [zero_add] at hsupported
  rw [← hempty] at hsupported hrefused
  refine ⟨fun h => ?_, fun h => ?_⟩
  · exact except_bind_eq_ok.mpr ⟨_, hsupported h, rfl⟩
  · exact congrArg (· >>= _) (hrefused h)

theorem packVertexInfluences_eq_ok {influences : List (JointInfluence K)}
    {packed : PackedInfluences K} :
    @packVertexInfluences K .exact influences = .ok packed ↔ Supported influences ∧
      @packRanked K .exact ((@rankInfluences K .exact
        (weightsOf (totalWeight influences))).take 4) = packed := by
  obtain ⟨hsupported, hrefused⟩ := packVertexInfluences_eq influences
  by_cases h : Supported influences
  · rw [hsupported h, Except.ok.injEq, and_iff_right h]
  · rw [hrefused h]
    exact ⟨nofun, fun hok => absurd hok.1 h⟩

/-! ## The ranking -/

/-- The joint comes before the other in the ranking. -/
def Outranks (total : UInt16 → K) (joint other : UInt16) : Prop :=
  total other < total joint ∨ total joint = total other ∧ joint < other

/-- The joints with a weight, in the order of the ranking. -/
structure Ranking (total : UInt16 → K) (joints : List UInt16) : Prop where
  ordered : joints.Pairwise (Outranks total)
  complete : ∀ joint, joint ∈ joints ↔ joint.toNat < maximumSkinJoints ∧ 0 < total joint

/-- The place of an influence in the ranking. -/
def rankKey (influence : JointInfluence K) : Kᵒᵈ ×ₗ UInt16 :=
  toLex (OrderDual.toDual influence.weight, influence.jointIndex)

theorem heavierFirst_eq_false {left right : JointInfluence K} :
    @heavierFirst K .exact right left = false ↔ rankKey left ≤ rankKey right := by
  rw [← not_lt, rankKey, rankKey, Prod.Lex.toLex_lt_toLex]
  change (if decide (right.weight = left.weight) = true then
    decide (right.jointIndex < left.jointIndex) else decide (left.weight < right.weight)) =
      false ↔ ¬(left.weight < right.weight ∨
        right.weight = left.weight ∧ right.jointIndex < left.jointIndex)
  by_cases h : right.weight = left.weight <;> simp [h]

/-- The joints of the skeleton that have a weight, in their order. -/
def weightedJoints (total : UInt16 → K) : List UInt16 :=
  ((List.finRange maximumSkinJoints).map fun jointIndex : Fin maximumSkinJoints =>
    UInt16.ofNat jointIndex.val).filter fun joint => 0 < total joint

omit [FloorRing K] [SquareRoot K] in
theorem mem_weightedJoints {total : UInt16 → K} {joint : UInt16} :
    joint ∈ weightedJoints total ↔ joint.toNat < maximumSkinJoints ∧ 0 < total joint := by
  unfold weightedJoints
  rw [List.mem_filter, decide_eq_true_eq, List.mem_map]
  refine and_congr_left fun _ => ⟨?_, fun h => ?_⟩
  · rintro ⟨index, -, rfl⟩
    rw [UInt16.toNat_ofNat_of_lt' (index.isLt.trans (by decide))]
    exact index.isLt
  · exact ⟨⟨joint.toNat, h⟩, List.mem_finRange _, UInt16.ofNat_toNat⟩

omit [FloorRing K] [SquareRoot K] in
theorem weightedJoints_nodup (total : UInt16 → K) : (weightedJoints total).Nodup := by
  refine List.Nodup.filter _ ((List.nodup_finRange _).map fun index other hsame => ?_)
  have hindices := congrArg UInt16.toNat hsame
  rw [UInt16.toNat_ofNat_of_lt' (index.isLt.trans (by decide)),
    UInt16.toNat_ofNat_of_lt' (other.isLt.trans (by decide))] at hindices
  exact Fin.ext hindices

/-- The influence of a joint with its total weight. -/
def totalInfluence (total : UInt16 → K) (joint : UInt16) : JointInfluence K :=
  ⟨joint, total joint⟩

theorem rankInfluences_eq (total : UInt16 → K) :
    @rankInfluences K .exact (weightsOf total) =
      sortByKey rankKey ((weightedJoints total).map (totalInfluence total)) := by
  have hentries : (List.finRange maximumSkinJoints).map (fun jointIndex : Fin maximumSkinJoints =>
      (⟨UInt16.ofNat jointIndex.val, (weightsOf total).get jointIndex⟩ : JointInfluence K)) =
        ((List.finRange maximumSkinJoints).map fun jointIndex : Fin maximumSkinJoints =>
          UInt16.ofNat jointIndex.val).map (totalInfluence total) := by
    rw [List.map_map]
    refine List.map_congr_left fun jointIndex _ => ?_
    have hget : (weightsOf total).get jointIndex = total (UInt16.ofNat jointIndex.val) :=
      Vector.getElem_ofFn _
    rw [hget]
    rfl
  unfold rankInfluences weightedJoints sortByKey
  rw [hentries, List.filter_map]
  congr 1
  funext left right
  exact propext heavierFirst_eq_false

theorem rankInfluences_ranking (total : UInt16 → K) : ∃ joints, Ranking total joints ∧
    @rankInfluences K .exact (weightsOf total) = joints.map (totalInfluence total) := by
  rw [rankInfluences_eq]
  have hsorted : (sortByKey rankKey ((weightedJoints total).map (totalInfluence total))).Pairwise
      fun left right => rankKey left ≤ rankKey right := sortByKey_pairwise _
  have hperm : List.Perm (sortByKey rankKey ((weightedJoints total).map (totalInfluence total)))
      ((weightedJoints total).map (totalInfluence total)) := sortByKey_perm _
  generalize sortByKey rankKey ((weightedJoints total).map (totalInfluence total)) = sorted
    at hsorted hperm ⊢
  have hjoints : (sorted.map JointInfluence.jointIndex).Perm (weightedJoints total) := by
    refine (hperm.map _).trans (List.Perm.of_eq ?_)
    rw [List.map_map]
    exact List.map_id _
  have hentries : sorted = (sorted.map JointInfluence.jointIndex).map (totalInfluence total) := by
    rw [List.map_map]
    refine (List.map_id sorted).symm.trans (List.map_congr_left fun influence hinfluence => ?_)
    obtain ⟨joint, -, rfl⟩ := List.mem_map.mp (hperm.mem_iff.mp hinfluence)
    rfl
  refine ⟨sorted.map JointInfluence.jointIndex, ?_, hentries⟩
  constructor
  · have hdistinct := hjoints.nodup_iff.mpr (weightedJoints_nodup total)
    rw [hentries, List.pairwise_map] at hsorted
    refine (hsorted.and hdistinct).imp fun {joint other} ⟨hle, hne⟩ => ?_
    have hlt : rankKey (totalInfluence total joint) < rankKey (totalInfluence total other) :=
      lt_of_le_of_ne hle fun hsame => hne (congrArg (fun key => (ofLex key).2) hsame)
    exact Prod.Lex.toLex_lt_toLex.mp hlt
  · intro joint
    rw [hjoints.mem_iff]
    exact mem_weightedJoints

/-! ## The packed influences -/

/-- The four joints at the head of the ranking, or all of them where there are fewer. -/
structure TopFour (total : UInt16 → K) (kept : List UInt16) : Prop where
  ordered : kept.Pairwise (Outranks total)
  positive : ∀ joint ∈ kept, joint.toNat < maximumSkinJoints ∧ 0 < total joint
  atMost : kept.length ≤ 4
  top : ∀ joint ∉ kept, joint.toNat < maximumSkinJoints → 0 < total joint →
    kept.length = 4 ∧ ∀ other ∈ kept, Outranks total other joint

omit [FloorRing K] [SquareRoot K] in
theorem Ranking.topFour {total : UInt16 → K} {joints : List UInt16} (h : Ranking total joints) :
    TopFour total (joints.take 4) where
  ordered := h.ordered.sublist (List.take_sublist 4 joints)
  positive := fun joint hjoint => (h.complete joint).mp (List.mem_of_mem_take hjoint)
  atMost := by
    rw [List.length_take]
    exact min_le_left 4 _
  top := fun joint hdropped hindex hpositive => by
    have hsplit : joints.take 4 ++ joints.drop 4 = joints := List.take_append_drop 4 joints
    have hmem := (h.complete joint).mpr ⟨hindex, hpositive⟩
    have hordered := h.ordered
    rw [← hsplit] at hmem hordered
    have hlater := (List.mem_append.mp hmem).resolve_left hdropped
    refine ⟨?_, fun other hother =>
      (List.pairwise_append.mp hordered).2.2 other hother joint hlater⟩
    have hlong := List.length_pos_of_mem hlater
    rw [List.length_drop] at hlong
    rw [List.length_take]
    omega

/-- The packed form of the joints kept, the weights in the proportion of the totals. -/
structure Packs (total : UInt16 → K) (kept : List UInt16) (packed : PackedInfluences K) :
    Prop where
  indices : ∀ place : Fin 4, packed.jointIndices.get place = kept.getD place 0
  weights : ∀ place : Fin 4, packed.jointWeights.get place =
    if h : place < kept.length then total (kept.get ⟨place, h⟩) / (kept.map total).sum else 0

theorem packRanked_packs (total : UInt16 → K) (kept : List UInt16) :
    Packs total kept (@packRanked K .exact (kept.map (totalInfluence total))) where
  indices := fun place => by
    refine (Vector.getElem_ofFn place.isLt).trans ?_
    rw [List.getD_eq_getElem?_getD, Fin.getElem?_fin, List.getElem?_map, Option.map_map]
    exact congrArg (Option.getD · 0) Option.map_id_apply
  weights := fun place => by
    have hsum : ((kept.map (totalInfluence total)).map JointInfluence.weight).foldl (· + ·) 0 =
        (kept.map total).sum := by
      rw [← List.sum_eq_foldl, List.map_map]
      rfl
    refine (Vector.getElem_ofFn place.isLt).trans ?_
    rw [Fin.getElem?_fin, List.getElem?_map]
    split
    · rename_i hplace
      rw [List.getElem?_eq_getElem hplace]
      exact congrArg (total kept[place.val] / ·) hsum
    · rename_i hplace
      rw [List.getElem?_eq_none (not_lt.mp hplace)]
      rfl

/-- What holds of a packing to the four heaviest joints. -/
structure PackedWell (total : UInt16 → K) (packed : PackedInfluences K) : Prop where
  nonneg : ∀ place, 0 ≤ packed.jointWeights.get place
  nonincreasing : ∀ place later, place ≤ later →
    packed.jointWeights.get later ≤ packed.jointWeights.get place
  distinct : ∀ place other, packed.jointWeights.get place ≠ 0 →
    packed.jointWeights.get other ≠ 0 →
    packed.jointIndices.get place = packed.jointIndices.get other → place = other
  sum : (∃ joint, total joint ≠ 0) → ∑ place, packed.jointWeights.get place = 1
  none : (∀ joint, total joint = 0) → ∀ place, packed.jointWeights.get place = 0

variable [IsStrictOrderedRing K] {total : UInt16 → K} {kept : List UInt16}
  {packed : PackedInfluences K}

omit [FloorRing K] [SquareRoot K] in
theorem TopFour.sum_nonneg (h : TopFour total kept) : 0 ≤ (kept.map total).sum := by
  refine List.sum_nonneg (List.forall_mem_map.mpr fun joint hjoint => ?_)
  exact (h.positive joint hjoint).2.le

omit [FloorRing K] [SquareRoot K] in
theorem TopFour.sum_pos (h : TopFour total kept) (hkept : kept ≠ []) :
    0 < (kept.map total).sum := by
  refine List.sum_pos _ (List.forall_mem_map.mpr fun joint hjoint => ?_) (by simpa using hkept)
  exact (h.positive joint hjoint).2

omit [FloorRing K] [SquareRoot K] in
theorem Packs.nonneg (hpacks : Packs total kept packed) (htop : TopFour total kept)
    (place : Fin 4) : 0 ≤ packed.jointWeights.get place := by
  rw [hpacks.weights]
  split
  · exact div_nonneg (htop.positive _ (List.get_mem kept _)).2.le htop.sum_nonneg
  · exact le_rfl

omit [FloorRing K] [SquareRoot K] in
theorem Packs.nonincreasing (hpacks : Packs total kept packed) (htop : TopFour total kept)
    {place later : Fin 4} (h : place ≤ later) :
    packed.jointWeights.get later ≤ packed.jointWeights.get place := by
  by_cases hlater : later < kept.length
  · have hplace : place < kept.length := lt_of_le_of_lt h hlater
    rw [hpacks.weights, hpacks.weights, dif_pos hlater, dif_pos hplace]
    refine div_le_div_of_nonneg_right ?_ htop.sum_nonneg
    rcases h.eq_or_lt with rfl | hlt
    · exact le_rfl
    · have houtranks := List.pairwise_iff_get.mp htop.ordered ⟨place, hplace⟩ ⟨later, hlater⟩ hlt
      exact houtranks.elim le_of_lt fun hsame => hsame.1.ge
  · have hzero : packed.jointWeights.get later = 0 := by
      rw [hpacks.weights, dif_neg hlater]
    rw [hzero]
    exact hpacks.nonneg htop place

omit [IsStrictOrderedRing K] [FloorRing K] [SquareRoot K] in
theorem Packs.distinct (hpacks : Packs total kept packed) (htop : TopFour total kept)
    {place other : Fin 4} (hplace : packed.jointWeights.get place ≠ 0)
    (hother : packed.jointWeights.get other ≠ 0)
    (h : packed.jointIndices.get place = packed.jointIndices.get other) : place = other := by
  rw [hpacks.weights] at hplace hother
  have hplace := (dite_ne_right_iff.mp hplace).1
  have hother := (dite_ne_right_iff.mp hother).1
  rw [hpacks.indices, hpacks.indices, List.getD_eq_getElem?_getD, List.getD_eq_getElem?_getD,
    List.getElem?_eq_getElem hplace, List.getElem?_eq_getElem hother] at h
  have hnodup : kept.Nodup := htop.ordered.imp fun {joint other} houtranks hsame => by
    subst hsame
    exact houtranks.elim (lt_irrefl _) fun hlater => lt_irrefl _ hlater.2
  exact Fin.ext ((List.Nodup.getElem_inj_iff hnodup).mp h)

omit [FloorRing K] [SquareRoot K] in
theorem Packs.sum_eq_one (hpacks : Packs total kept packed) (htop : TopFour total kept)
    (hkept : kept ≠ []) : ∑ place, packed.jointWeights.get place = 1 := by
  have hne := (htop.sum_pos hkept).ne'
  have hsum : ∑ place, packed.jointWeights.get place =
      (kept.map total).sum / (kept.map total).sum := by
    simp only [Fin.sum_univ_four, hpacks.weights]
    match kept, htop.atMost with
    | [], _ => simp
    | [a], _ => simp
    | [a, b], _ => simp [add_div]
    | [a, b, c], _ => simp [add_div, add_assoc]
    | [a, b, c, d], _ => simp [add_div, add_assoc]
  rw [hsum, div_self hne]

omit [FloorRing K] [SquareRoot K] in
theorem Supported.totalWeight_nonneg {influences : List (JointInfluence K)}
    (h : Supported influences) (joint : UInt16) : 0 ≤ totalWeight influences joint := by
  refine List.sum_nonneg (List.forall_mem_map.mpr fun influence hinfluence => ?_)
  exact (h influence (List.mem_of_mem_filter hinfluence)).2

omit [IsStrictOrderedRing K] [FloorRing K] [SquareRoot K] in
/-- What has a weight is a joint of a skeleton. -/
theorem Supported.index_lt {influences : List (JointInfluence K)} (h : Supported influences)
    {joint : UInt16} (hjoint : totalWeight influences joint ≠ 0) :
    joint.toNat < maximumSkinJoints := by
  by_contra hlarge
  refine hjoint ?_
  have hnone : influences.filter (fun influence => influence.jointIndex = joint) = [] := by
    rw [List.filter_eq_nil_iff]
    intro influence hinfluence hsame
    exact hlarge (of_decide_eq_true hsame ▸ (h influence hinfluence).1)
  rw [totalWeight, hnone]
  rfl

omit [FloorRing K] [SquareRoot K] in
theorem Packs.packedWell {influences : List (JointInfluence K)} (h : Supported influences)
    (htop : TopFour (totalWeight influences) kept)
    (hpacks : Packs (totalWeight influences) kept packed) :
    PackedWell (totalWeight influences) packed where
  nonneg := hpacks.nonneg htop
  nonincreasing := fun _ _ => hpacks.nonincreasing htop
  distinct := fun _ _ => hpacks.distinct htop
  sum := fun ⟨joint, hjoint⟩ => by
    refine hpacks.sum_eq_one htop fun hnone => ?_
    have hpositive := lt_of_le_of_ne (h.totalWeight_nonneg joint) hjoint.symm
    have hdropped : joint ∉ kept := by
      rw [hnone]
      exact List.not_mem_nil
    have hfull := (htop.top joint hdropped (h.index_lt hjoint) hpositive).1
    rw [hnone] at hfull
    exact absurd hfull (by decide)
  none := fun hzero place => by
    rw [hpacks.weights]
    split
    · rw [hzero, zero_div]
    · rfl

/-- The packing of supported influences: it depends on the totals only, and it holds the four
heaviest joints with their shares. -/
theorem packVertexInfluences_topFour {influences : List (JointInfluence K)}
    (h : @packVertexInfluences K .exact influences = .ok packed) :
    (∀ others, influences.Perm others → @packVertexInfluences K .exact others = .ok packed) ∧
    (∀ before middle after joint a b,
      influences = before ++ ⟨joint, a⟩ :: (middle ++ ⟨joint, b⟩ :: after) →
        @packVertexInfluences K .exact (before ++ ⟨joint, a + b⟩ :: (middle ++ after)) =
          .ok packed) ∧
    ∃ kept, TopFour (totalWeight influences) kept ∧
      Packs (totalWeight influences) kept packed ∧ PackedWell (totalWeight influences) packed := by
  obtain ⟨hsupported, hpacked⟩ := packVertexInfluences_eq_ok.mp h
  refine ⟨fun others hperm => ?_, fun before middle after joint a b hsplit => ?_, ?_⟩
  · rw [packVertexInfluences_eq_ok, ← totalWeight_perm hperm]
    exact ⟨fun influence hinfluence => hsupported influence (hperm.mem_iff.mpr hinfluence), hpacked⟩
  · have hperm : influences.Perm (⟨joint, a⟩ :: ⟨joint, b⟩ :: (before ++ (middle ++ after))) := by
      rw [hsplit]
      refine List.perm_middle.trans (.cons _ ?_)
      rw [← List.append_assoc, ← List.append_assoc]
      exact List.perm_middle
    have hmerged : (before ++ ⟨joint, a + b⟩ :: (middle ++ after)).Perm
        (⟨joint, a + b⟩ :: (before ++ (middle ++ after))) := List.perm_middle
    have htotal : totalWeight (before ++ ⟨joint, a + b⟩ :: (middle ++ after)) =
        totalWeight influences := by
      rw [totalWeight_perm hmerged, ← totalWeight_merge, totalWeight_perm hperm]
    rw [packVertexInfluences_eq_ok, htotal]
    refine ⟨fun influence hinfluence => ?_, hpacked⟩
    have hall : ∀ influence ∈ (⟨joint, a⟩ :: ⟨joint, b⟩ :: (before ++ (middle ++ after)) :
        List (JointInfluence K)), influence.jointIndex.toNat < maximumSkinJoints ∧
          0 ≤ influence.weight := fun influence hinfluence =>
      hsupported influence (hperm.mem_iff.mpr hinfluence)
    simp only [List.forall_mem_cons] at hall
    rcases List.mem_cons.mp (hmerged.mem_iff.mp hinfluence) with rfl | hother
    · exact ⟨hall.1.1, add_nonneg hall.1.2 hall.2.1.2⟩
    · exact hall.2.2 influence hother
  · obtain ⟨joints, hranking, hranked⟩ := rankInfluences_ranking (totalWeight influences)
    rw [hranked, ← List.map_take] at hpacked
    have hpacks := packRanked_packs (totalWeight influences) (joints.take 4)
    rw [hpacked] at hpacks
    exact ⟨_, hranking.topFour, hpacks, Packs.packedWell hsupported hranking.topFour hpacks⟩

end Exact

/-- The packing of two influences of one joint and one of another. -/
theorem packVertexInfluences_topFour_three :
    ∃ packed, @packVertexInfluences ℚ .exact [⟨3, 1⟩, ⟨5, 2⟩, ⟨3, 4⟩] = .ok packed ∧
      PackedWell (totalWeight [(⟨3, 1⟩ : JointInfluence ℚ), ⟨5, 2⟩, ⟨3, 4⟩]) packed := by
  have hpacked := packVertexInfluences_eq_ok.mpr
    ⟨(by decide : Supported [(⟨3, 1⟩ : JointInfluence ℚ), ⟨5, 2⟩, ⟨3, 4⟩]), rfl⟩
  obtain ⟨-, -, _, -, -, hwell⟩ := packVertexInfluences_topFour hpacked
  exact ⟨_, hpacked, hwell⟩

end SurvivalArena
