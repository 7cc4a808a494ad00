import SurvivalArena.Framework.KeyedDiff
import SurvivalArena.Protocol.PayloadValidity

/-!
# Deltas

The server's difference between a recipient's baseline and its current view, and the client's
update of a baseline by it.
-/

namespace SurvivalArena

open KeyedList

/-! ## Building a delta

Both entity lists are merged in one pass; an entity present in both yields a
change record for the field groups that differ.
-/

def ActorField.when (present : Bool) (field : ActorField) : ActorField :=
  if present then field else .none

def GlobalField.when (present : Bool) (field : GlobalField) : GlobalField :=
  if present then field else .none

def safeZoneChanged (base current : QuantizedGlobalValue) : Bool :=
  base.safeZoneStage != current.safeZoneStage ||
    base.safeZoneCenter != current.safeZoneCenter ||
    base.safeZoneRadius != current.safeZoneRadius

def resultChanged (base current : QuantizedGlobalValue) : Bool :=
  base.hasResult != current.hasResult ||
    current.hasResult && base.result != current.result

def buildGlobalDelta (base current : QuantizedGlobalValue) :
    QuantizedGlobalDelta :=
  let defaults : QuantizedGlobalDelta := {}
  let phase := base.phase != current.phase
  let safeZone := safeZoneChanged base current
  let alive := base.aliveContenders != current.aliveContenders
  let result := resultChanged base current
  let checksum := base.eventChecksum != current.eventChecksum
  { fields :=
      .when phase .phase ||| .when safeZone .safeZone |||
        .when alive .aliveContenders ||| .when result .result |||
        .when checksum .eventChecksum
    phase := if phase then current.phase else defaults.phase
    safeZoneStage :=
      if safeZone then current.safeZoneStage else defaults.safeZoneStage
    safeZoneCenter :=
      if safeZone then current.safeZoneCenter else defaults.safeZoneCenter
    safeZoneRadius :=
      if safeZone then current.safeZoneRadius else defaults.safeZoneRadius
    aliveContenders :=
      if alive then current.aliveContenders else defaults.aliveContenders
    result :=
      if result && current.hasResult then current.result else defaults.result
    hasResult := if result then current.hasResult else defaults.hasResult
    eventChecksum :=
      if checksum then current.eventChecksum else defaults.eventChecksum }

def healthAliveChanged (base current : QuantizedActorValue) : Bool :=
  base.health != current.health || base.alive != current.alive

def weaponCooldownChanged (base current : QuantizedActorValue) : Bool :=
  base.weapon != current.weapon ||
    base.cooldownTicksRemaining != current.cooldownTicksRemaining

/-- The field groups of an actor that differ from the base. -/
def actorChanges (base current : QuantizedActorValue) : QuantizedActorDelta :=
  let defaults : QuantizedActorDelta := {}
  let position := base.position != current.position
  let healthAlive := healthAliveChanged base current
  let weaponCooldown := weaponCooldownChanged base current
  let eliminations := base.eliminations != current.eliminations
  { id := current.id
    fields :=
      .when position .position ||| .when healthAlive .healthAlive |||
        .when weaponCooldown .weaponCooldown |||
        .when eliminations .eliminations
    position := if position then current.position else defaults.position
    health := if healthAlive then current.health else defaults.health
    alive := if healthAlive then current.alive else defaults.alive
    weapon := if weaponCooldown then current.weapon else defaults.weapon
    cooldownTicksRemaining :=
      if weaponCooldown then current.cooldownTicksRemaining
      else defaults.cooldownTicksRemaining
    eliminations :=
      if eliminations then current.eliminations else defaults.eliminations }

def buildActorDelta (base current : QuantizedActorValue) :
    Except Exception (Option QuantizedActorDelta) :=
  if base.role ≠ current.role ∨
      base.neutralArchetype ≠ current.neutralArchetype then
    .error (.logicError "actor immutable replication field changed")
  else if (actorChanges base current).fields = .none then .ok none
  else .ok (some (actorChanges base current))

def buildLootDelta (base current : QuantizedLootValue) :
    Except Exception (Option QuantizedLootDelta) :=
  if base.type ≠ current.type ∨ base.position ≠ current.position then
    .error (.logicError "loot immutable replication field changed")
  else if base.active = current.active then .ok none
  else .ok (some {
    id := current.id, fields := .active, active := current.active })

def buildDeltaPayload (baseSnapshotId snapshotId : UInt32)
    (base current : QuantizedWorld) : Except Exception SnapshotPayload := do
  let actors ← diff QuantizedActorValue.id buildActorDelta
    base.actors current.actors
  let loot ← diff QuantizedLootValue.id buildLootDelta base.loot current.loot
  pure {
    header := {
      kind := .delta
      valueEncoding := .quantized
      baseSnapshotId
      payloadSnapshotId := snapshotId }
    globalDelta := buildGlobalDelta base.global current.global
    actorValues := actors.entered
    actorDeltas := actors.changed
    removedActors := actors.removed
    lootValues := loot.entered
    lootDeltas := loot.changed
    removedLoot := loot.removed }

/-! ## Masks -/

/-- The mask of a global delta has exactly the groups that changed. -/
theorem buildGlobalDelta_fields (base current : QuantizedGlobalValue) :
    let fields := (buildGlobalDelta base current).fields
    isValidGlobalFieldMask fields = true ∧
      fields.has .phase = (base.phase != current.phase) ∧
      fields.has .safeZone = safeZoneChanged base current ∧
      fields.has .aliveContenders =
        (base.aliveContenders != current.aliveContenders) ∧
      fields.has .result = resultChanged base current ∧
      fields.has .eventChecksum =
        (base.eventChecksum != current.eventChecksum) := by
  simp only [buildGlobalDelta]
  generalize (base.phase != current.phase) = phase
  generalize safeZoneChanged base current = safeZone
  generalize (base.aliveContenders != current.aliveContenders) = alive
  generalize resultChanged base current = result
  generalize (base.eventChecksum != current.eventChecksum) = checksum
  revert phase safeZone alive result checksum
  decide

/-- The mask of an actor's changes has exactly the groups that changed. -/
theorem actorChanges_fields (base current : QuantizedActorValue) :
    let fields := (actorChanges base current).fields
    isValidActorFieldMask fields = true ∧
      fields.has .position = (base.position != current.position) ∧
      fields.has .healthAlive = healthAliveChanged base current ∧
      fields.has .weaponCooldown = weaponCooldownChanged base current ∧
      fields.has .eliminations =
        (base.eliminations != current.eliminations) := by
  simp only [actorChanges]
  generalize (base.position != current.position) = position
  generalize healthAliveChanged base current = healthAlive
  generalize weaponCooldownChanged base current = weaponCooldown
  generalize (base.eliminations != current.eliminations) = eliminations
  revert position healthAlive weaponCooldown eliminations
  decide

/-! ## Applying a delta

Each list search is the source's lower bound, which on an ascending list finds the
entry with the id if there is one.
-/

def applyGlobalDelta (target : QuantizedGlobalValue)
    (delta : QuantizedGlobalDelta) : QuantizedGlobalValue :=
  let safeZone := delta.fields.has .safeZone
  let result := delta.fields.has .result
  { phase := if delta.fields.has .phase then delta.phase else target.phase
    safeZoneStage :=
      if safeZone then delta.safeZoneStage else target.safeZoneStage
    safeZoneCenter :=
      if safeZone then delta.safeZoneCenter else target.safeZoneCenter
    safeZoneRadius :=
      if safeZone then delta.safeZoneRadius else target.safeZoneRadius
    aliveContenders :=
      if delta.fields.has .aliveContenders then delta.aliveContenders
      else target.aliveContenders
    result := if result then delta.result else target.result
    hasResult := if result then delta.hasResult else target.hasResult
    eventChecksum :=
      if delta.fields.has .eventChecksum then delta.eventChecksum
      else target.eventChecksum }

/-- Throw when a list operation found no place for its entry. -/
def orThrow {α : Type} (e : Exception) (values : Option α) :
    Except Exception α :=
  values.elim (.error e) .ok

def removeActors (removed : List EntityId) (actors : List QuantizedActorValue) :
    Except Exception (List QuantizedActorValue) :=
  orThrow (.invalidArgument "removed actor is not in baseline")
    (eraseAll QuantizedActorValue.id removed actors)

def enterActors (entered actors : List QuantizedActorValue) :
    Except Exception (List QuantizedActorValue) :=
  orThrow (.invalidArgument "entered actor already exists")
    (insertAll QuantizedActorValue.id entered actors)

def changeActor (change : QuantizedActorDelta) (actor : QuantizedActorValue) :
    QuantizedActorValue :=
  let healthAlive := change.fields.has .healthAlive
  let weaponCooldown := change.fields.has .weaponCooldown
  { actor with
    position :=
      if change.fields.has .position then change.position else actor.position
    health := if healthAlive then change.health else actor.health
    alive := if healthAlive then change.alive else actor.alive
    weapon := if weaponCooldown then change.weapon else actor.weapon
    cooldownTicksRemaining :=
      if weaponCooldown then change.cooldownTicksRemaining
      else actor.cooldownTicksRemaining
    eliminations :=
      if change.fields.has .eliminations then change.eliminations
      else actor.eliminations }

def changeActors (changes : List QuantizedActorDelta)
    (actors : List QuantizedActorValue) :
    Except Exception (List QuantizedActorValue) :=
  orThrow (.invalidArgument "actor delta target is missing")
    (modifyAll QuantizedActorValue.id QuantizedActorDelta.id changeActor
      changes actors)

def removeLoot (removed : List UInt32) (loot : List QuantizedLootValue) :
    Except Exception (List QuantizedLootValue) :=
  orThrow (.invalidArgument "removed loot is not in baseline")
    (eraseAll QuantizedLootValue.id removed loot)

def enterLoot (entered loot : List QuantizedLootValue) :
    Except Exception (List QuantizedLootValue) :=
  orThrow (.invalidArgument "entered loot already exists")
    (insertAll QuantizedLootValue.id entered loot)

/-- The client takes the flag whatever the mask says. -/
def changeLootValue (change : QuantizedLootDelta) (loot : QuantizedLootValue) :
    QuantizedLootValue :=
  { loot with active := change.active }

def changeLoot (changes : List QuantizedLootDelta)
    (loot : List QuantizedLootValue) :
    Except Exception (List QuantizedLootValue) :=
  orThrow (.invalidArgument "loot delta target is missing")
    (modifyAll QuantizedLootValue.id QuantizedLootDelta.id changeLootValue
      changes loot)

def applyDelta (base : QuantizedWorld) (payload : SnapshotPayload) :
    Except Exception QuantizedWorld := do
  let actors ← removeActors payload.removedActors base.actors
  let actors ← enterActors payload.actorValues actors
  let actors ← changeActors payload.actorDeltas actors
  let loot ← removeLoot payload.removedLoot base.loot
  let loot ← enterLoot payload.lootValues loot
  let loot ← changeLoot payload.lootDeltas loot
  pure { global := applyGlobalDelta base.global payload.globalDelta,
         actors, loot }

theorem orThrow_eq_ok {α : Type} {e : Exception} {values : Option α} {a : α} :
    orThrow e values = .ok a ↔ values = some a := by
  cases values <;> simp [orThrow]

theorem changeActor_id (change : QuantizedActorDelta)
    (actor : QuantizedActorValue) : (changeActor change actor).id = actor.id :=
  rfl

theorem changeLootValue_id (change : QuantizedLootDelta)
    (loot : QuantizedLootValue) : (changeLootValue change loot).id = loot.id :=
  rfl

/-- A delta applies when each of its six list operations does. -/
theorem applyDelta_eq_ok {base applied : QuantizedWorld}
    {payload : SnapshotPayload} :
    applyDelta base payload = .ok applied ↔
      applied.global = applyGlobalDelta base.global payload.globalDelta ∧
      (∃ kept entered,
        eraseAll QuantizedActorValue.id payload.removedActors base.actors =
          some kept ∧
        insertAll QuantizedActorValue.id payload.actorValues kept =
          some entered ∧
        modifyAll QuantizedActorValue.id QuantizedActorDelta.id changeActor
          payload.actorDeltas entered = some applied.actors) ∧
      ∃ kept entered,
        eraseAll QuantizedLootValue.id payload.removedLoot base.loot =
          some kept ∧
        insertAll QuantizedLootValue.id payload.lootValues kept =
          some entered ∧
        modifyAll QuantizedLootValue.id QuantizedLootDelta.id changeLootValue
          payload.lootDeltas entered = some applied.loot := by
  simp only [applyDelta, removeActors, enterActors, changeActors, removeLoot,
    enterLoot, changeLoot, except_bind_eq_ok, orThrow_eq_ok]
  constructor
  · rintro ⟨a₁, h₁, a₂, h₂, a₃, h₃, l₁, g₁, l₂, g₂, l₃, g₃, h⟩
    obtain rfl := Except.ok.inj h
    exact ⟨rfl, ⟨a₁, a₂, h₁, h₂, h₃⟩, l₁, l₂, g₁, g₂, g₃⟩
  · rintro ⟨hg, ⟨a₁, a₂, h₁, h₂, h₃⟩, l₁, l₂, g₁, g₂, g₃⟩
    refine ⟨a₁, h₁, a₂, h₂, _, h₃, l₁, g₁, l₂, g₂, _, g₃, ?_⟩
    rw [← hg]
    rfl

end SurvivalArena
