import SurvivalArena.Protocol.PayloadValidity
import SurvivalArena.Protocol.Quantization
import SurvivalArena.Replication.InterestGrid

/-!
# A recipient's view

The part of the world a recipient sees, and its quantized form.
-/

namespace SurvivalArena

open KeyedList

def NetworkVec2.toSimulation (value : NetworkVec2) : Vec2 Float32 where
  x := value.x
  z := value.z

/-- The grid's reading of a world's entities. -/
def gridActors (world : GameSnapshot) : List (GridItem EntityId Float32) :=
  world.actors.map fun actor =>
    { id := actor.id, position := actor.position.toSimulation }

def gridLoot (world : GameSnapshot) : List (GridItem UInt32 Float32) :=
  world.loot.map fun loot =>
    { id := loot.id, position := loot.position.toSimulation,
      active := loot.active }

def GameSnapshot.findActor (world : GameSnapshot) (actorId : EntityId) :
    Option NetworkActorSnapshot :=
  lookup NetworkActorSnapshot.id actorId world.actors

def findLoot (world : GameSnapshot) (lootId : UInt32) :
    Option NetworkLootSnapshot :=
  lookup NetworkLootSnapshot.id lootId world.loot

def hasCanonicalWorldIds (world : GameSnapshot) : Bool :=
  decide (Ascending NetworkActorSnapshot.id world.actors) &&
    decide (Ascending NetworkLootSnapshot.id world.loot)

def visibleActor (world : GameSnapshot) (actorId : EntityId) :
    Except Exception NetworkActorSnapshot :=
  (world.findActor actorId).elim
    (.error (.logicError "visible actor is missing from world")) .ok

def visibleLoot (world : GameSnapshot) (lootId : UInt32) :
    Except Exception NetworkLootSnapshot :=
  ((findLoot world lootId).filter (·.active)).elim
    (.error (.logicError "visible loot is missing from world")) .ok

def filterWorld (world : GameSnapshot) (visible : VisibleSet) :
    Except Exception GameSnapshot := do
  let actors ← visible.actors.mapM (visibleActor world)
  let loot ← visible.loot.mapM (visibleLoot world)
  pure { world with actors, loot }

def quantizeVec2 (position : NetworkVec2) (minimum maximum : Vec2 Float32) :
    Except Exception QuantizedVec2 := do
  let x ← quantizeCoordinate position.x minimum.x maximum.x
  let z ← quantizeCoordinate position.z minimum.z maximum.z
  pure { x, z }

def quantizeActor (minimum maximum : Vec2 Float32)
    (actor : NetworkActorSnapshot) : Except Exception QuantizedActorValue := do
  let position ← quantizeVec2 actor.position minimum maximum
  let health ← quantizeHealth actor.health
  let cooldownTicksRemaining ←
    quantizeCooldownTicks actor.cooldownTicksRemaining
  let eliminations ← quantizeEliminations actor.eliminations
  pure {
    id := actor.id, role := actor.role
    neutralArchetype := actor.neutralArchetype, position, health
    alive := actor.alive, weapon := actor.weapon, cooldownTicksRemaining,
    eliminations }

def quantizeLoot (minimum maximum : Vec2 Float32)
    (loot : NetworkLootSnapshot) : Except Exception QuantizedLootValue := do
  let position ← quantizeVec2 loot.position minimum maximum
  pure { id := loot.id, type := loot.type, position, active := loot.active }

def quantizeGlobal (world : GameSnapshot) (minimum maximum : Vec2 Float32)
    (radiusMaximum : Float32) : Except Exception QuantizedGlobalValue := do
  let safeZoneCenter ← quantizeVec2 world.safeZoneCenter minimum maximum
  let safeZoneRadius ← quantizeSafeZoneRadius world.safeZoneRadius radiusMaximum
  let aliveContenders ← quantizeAliveContenders world.aliveContenders
  pure {
    phase := world.phase, safeZoneStage := world.safeZoneStage, safeZoneCenter,
    safeZoneRadius, aliveContenders, result := world.result
    hasResult := world.hasResult, eventChecksum := world.eventChecksum }

def quantizeView (filtered : GameSnapshot) (minimum maximum : Vec2 Float32)
    (radiusMaximum : Float32) : Except Exception QuantizedWorld := do
  let global ← quantizeGlobal filtered minimum maximum radiusMaximum
  let actors ← filtered.actors.mapM (quantizeActor minimum maximum)
  let loot ← filtered.loot.mapM (quantizeLoot minimum maximum)
  pure { global, actors, loot }

/-! ## Order -/

/-- A mapping that keeps the key of each entry keeps the list's order. -/
theorem mapM_keys {α β κ : Type} {f : α → Except Exception β} {ka : α → κ}
    {kb : β → κ} (hf : ∀ a b, f a = .ok b → kb b = ka a) {as : List α}
    {bs : List β} (h : as.mapM f = .ok bs) : bs.map kb = as.map ka := by
  induction as generalizing bs with
  | nil =>
    obtain rfl := Except.ok.inj h
    rfl
  | cons a as ih =>
    rw [List.mapM_cons] at h
    obtain ⟨b, hb, hrest⟩ := except_bind_eq_ok.mp h
    obtain ⟨bs', hbs, hcons⟩ := except_bind_eq_ok.mp hrest
    obtain rfl := Except.ok.inj hcons
    rw [List.map_cons, List.map_cons, hf a b hb, ih hbs]

theorem visibleActor_id {world : GameSnapshot} {actorId : EntityId}
    {actor : NetworkActorSnapshot} (h : visibleActor world actorId = .ok actor) :
    actor.id = actorId := by
  unfold visibleActor at h
  cases hfind : world.findActor actorId with
  | none => simp [hfind] at h
  | some found =>
    rw [hfind] at h
    obtain rfl := Except.ok.inj h
    exact key_of_lookup hfind

theorem visibleLoot_id {world : GameSnapshot} {lootId : UInt32}
    {loot : NetworkLootSnapshot} (h : visibleLoot world lootId = .ok loot) :
    loot.id = lootId := by
  unfold visibleLoot at h
  cases hfind : (findLoot world lootId).filter (·.active) with
  | none => simp [hfind] at h
  | some found =>
    rw [hfind] at h
    obtain rfl := Except.ok.inj h
    exact key_of_lookup (Option.filter_eq_some_iff.mp hfind).1

theorem quantizeActor_id {minimum maximum : Vec2 Float32}
    {actor : NetworkActorSnapshot} {value : QuantizedActorValue}
    (h : quantizeActor minimum maximum actor = .ok value) :
    value.id = actor.id := by
  simp only [quantizeActor, except_bind_eq_ok] at h
  obtain ⟨_, -, _, -, _, -, _, -, hvalue⟩ := h
  obtain rfl := Except.ok.inj hvalue
  rfl

theorem quantizeLoot_id {minimum maximum : Vec2 Float32}
    {loot : NetworkLootSnapshot} {value : QuantizedLootValue}
    (h : quantizeLoot minimum maximum loot = .ok value) :
    value.id = loot.id := by
  simp only [quantizeLoot, except_bind_eq_ok] at h
  obtain ⟨_, -, hvalue⟩ := h
  obtain rfl := Except.ok.inj hvalue
  rfl

/-- The view of an ascending visible set is in ascending order. -/
theorem quantizeView_sorted {world filtered : GameSnapshot}
    {visible : VisibleSet} {minimum maximum : Vec2 Float32}
    {radiusMaximum : Float32} {view : QuantizedWorld}
    (hvisible : Ascending id visible.actors ∧ Ascending id visible.loot)
    (hfilter : filterWorld world visible = .ok filtered)
    (hview : quantizeView filtered minimum maximum radiusMaximum = .ok view) :
    view.Sorted := by
  simp only [filterWorld, except_bind_eq_ok] at hfilter
  obtain ⟨actors, hactors, loot, hloot, hfiltered⟩ := hfilter
  obtain rfl := Except.ok.inj hfiltered
  simp only [quantizeView, except_bind_eq_ok] at hview
  obtain ⟨global, -, qactors, hqactors, qloot, hqloot, hq⟩ := hview
  obtain rfl := Except.ok.inj hq
  have hactorIds : qactors.map QuantizedActorValue.id = visible.actors := by
    rw [mapM_keys (fun _ _ => quantizeActor_id) hqactors,
      mapM_keys (fun _ _ => visibleActor_id) hactors, List.map_id']
  have hlootIds : qloot.map QuantizedLootValue.id = visible.loot := by
    rw [mapM_keys (fun _ _ => quantizeLoot_id) hqloot,
      mapM_keys (fun _ _ => visibleLoot_id) hloot, List.map_id']
  constructor
  · exact ascending_keys.mp (by rw [hactorIds]; exact hvisible.1)
  · exact ascending_keys.mp (by rw [hlootIds]; exact hvisible.2)

end SurvivalArena
