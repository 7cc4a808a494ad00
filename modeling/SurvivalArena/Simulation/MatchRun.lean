import SurvivalArena.Framework.Machine
import SurvivalArena.Simulation.OfflineMatchStep

/-!
# Runs of a match

The calls a started match takes, and what a tick that returns went through.
-/

namespace SurvivalArena

open Machine

variable {R : Type} [Precision R]

inductive MatchCall (R : Type) where
  | submit (command : MatchCommand R)
  | submitLifecycle (command : MatchLifecycleCommand)
  | step
  | drainEvents

inductive MatchReply where
  | outcome (outcome : Except Exception Unit)
  | events (events : List MatchEvent)

namespace OfflineMatch

def call (game : OfflineMatch R) : MatchCall R → OfflineMatch R × MatchReply
  | .submit command => ((game.submit command).1, .outcome (game.submit command).2)
  | .submitLifecycle command =>
    ((game.submitLifecycle command).1, .outcome (game.submitLifecycle command).2)
  | .step => (game.step.1, .outcome game.step.2)
  | .drainEvents => (game.drainEvents.1, .events game.drainEvents.2)

/-- The match was created for a mesh and a configuration, and started. -/
def Starts [Trigonometry R] (navMesh : NavMesh R) (config : MatchConfig R)
    (game : OfflineMatch R) : Prop :=
  (create navMesh config >>= start) = .ok game

/-! ## A match of two -/

section Duel

/-- Two contenders alone, without loot. -/
def duelConfig : MatchConfig Float32 := {
  contenderCount := 2
  meleeNeutralCount := 0
  rangedNeutralCount := 0
  rifleLootCount := 0
  arcPulseLootCount := 0
  medKitLootCount := 0
  enableInternalBots := false }

/-- The square arena in coarse cells. -/
def duelMesh : Except Exception (NavMesh Float32) :=
  NavMesh.build [⟨-128, -128⟩, ⟨128, -128⟩, ⟨-128, 128⟩, ⟨128, 128⟩]
    [⟨0, 1, 2⟩, ⟨1, 3, 2⟩] 256

/-- A match on the arena, once it has started. -/
def startedMatch (navMesh : Except Exception (NavMesh Float32))
    (config : MatchConfig Float32) : Except Exception (OfflineMatch Float32) := do
  let navMesh ← navMesh
  let game ← create navMesh config
  @start _ _ seriesTrigonometry game

theorem startedMatch_starts {navMesh : Except Exception (NavMesh Float32)}
    {config : MatchConfig Float32} {game : OfflineMatch Float32}
    (h : startedMatch navMesh config = .ok game) :
    ∃ mesh, navMesh = .ok mesh ∧ @Starts _ _ seriesTrigonometry mesh config game :=
  except_bind_eq_ok.mp h

end Duel

/-! ## The phases of a tick -/

/-- The game after the disconnections of a tick. -/
def started (game : OfflineMatch R) : OfflineMatch R :=
  game.beginTick.disconnect game.disconnecting

/-- The events before the phases. -/
def openingEvents (game : OfflineMatch R) (selection : CommandSelection R) :
    List MatchEvent :=
  game.disconnecting.map game.started.disconnectedEvent ++
    selection.rejected.map game.started.rejectedEvent

end OfflineMatch

/-! ## Steps that fail

A step counts its tick before it refuses anything else, so an exception leaves the
match unchanged exactly when it is thrown before that.
-/

namespace OfflineMatch

/-- The step gets as far as counting its tick. -/
def countsTick (game : OfflineMatch R) : Bool :=
  game.isActive && game.tick != 2 ^ 32 - 1 && game.actors.length == game.agents.length

theorem setDestinations_tick (game : OfflineMatch R) (commands : List (MatchCommand R)) :
    (game.setDestinations commands).1.tick = game.tick := by
  induction commands generalizing game with
  | nil => rfl
  | cons command commands ih =>
    rw [setDestinations]
    split
    · exact ih game
    · split
      · rfl
      · refine attempt_keeps tick rfl fun accepted => ?_
        split
        · exact ih _
        · rfl

theorem fight_tick (game : OfflineMatch R) (commands : List (MatchCommand R)) :
    (game.fight commands).1.tick = game.tick := by
  unfold fight
  refine attempt_keeps tick rfl fun actors => ?_
  refine attempt_keeps tick rfl fun preCombatRanks => ?_
  refine attempt_keeps tick rfl fun resolution => ?_
  exact attempt_keeps tick rfl fun resolution => rfl

theorem conclude_tick (game : OfflineMatch R) : game.conclude.1.tick = game.tick := by
  unfold conclude
  dsimp only
  split
  · rfl
  · split
    · exact attempt_keeps tick rfl fun winner => rfl
    · split
      · exact attempt_keeps tick rfl fun winner => rfl
      · rfl

theorem resolve_tick (game : OfflineMatch R) (commands : List (MatchCommand R))
    (tickEvents : List MatchEvent) :
    (game.resolve commands tickEvents).1.tick = game.tick := by
  unfold resolve
  dsimp only
  have hdirected := game.setDestinations_tick commands
  generalize game.setDestinations commands = directed at hdirected ⊢
  have hmoved : directed.1.move.1.tick = game.tick := hdirected
  generalize directed.1.move = moved at hmoved ⊢
  have hcollected : moved.1.collectLoot.1.tick = game.tick := hmoved
  generalize moved.1.collectLoot = collected at hcollected ⊢
  have hfought := (collected.1.fight_tick commands).trans hcollected
  generalize collected.1.fight commands = fought at hfought ⊢
  have hshrunk : fought.1.shrinkZone.1.tick = game.tick := hfought
  generalize fought.1.shrinkZone = shrunk at hshrunk ⊢
  have hconcluded := shrunk.1.conclude_tick.trans hshrunk
  generalize shrunk.1.conclude = concluded at hconcluded ⊢
  refine attempt_keeps tick hdirected fun _ => ?_
  refine attempt_keeps tick hmoved fun _ => ?_
  refine attempt_keeps tick hcollected fun _ => ?_
  refine attempt_keeps tick hfought fun _ => ?_
  refine attempt_keeps tick hshrunk fun _ => ?_
  exact attempt_keeps tick hconcluded fun _ => hconcluded

/-- A step that gets that far has counted its tick, whether it returns or not. -/
theorem step_tick {game : OfflineMatch R} (h : game.countsTick = true) :
    game.step.1.tick = game.tick + 1 := by
  simp only [countsTick, Bool.and_eq_true, bne_iff_ne, ne_eq, beq_iff_eq] at h
  obtain ⟨⟨hactive, hcounted⟩, hpaired⟩ := h
  unfold step stepImpl
  rw [if_neg (by simp [hactive]), if_neg hcounted, if_neg (not_not.mpr hpaired)]
  by_cases hrefused : countAliveContenders game.actors ≤ game.disconnecting.length
  · rw [if_pos hrefused]
    rfl
  · rw [if_neg hrefused]
    exact attempt_keeps tick rfl fun selection => resolve_tick _ _ _

/-- A step that does not get that far throws and changes nothing. -/
theorem step_uncounted {game : OfflineMatch R} (h : game.countsTick = false) :
    game.step.1 = game := by
  unfold step stepImpl
  split
  · rfl
  · split
    · rfl
    · split
      · rfl
      · exfalso
        simp_all [countsTick]

/-- A step that throws leaves the match unchanged exactly when it does not get as far
as counting its tick. -/
theorem step_atomic_iff (game : OfflineMatch R) (e : Exception) :
    game.step.2 = .error e → (game.step.1 = game ↔ game.countsTick = false) := by
  rintro -
  constructor
  · intro hsame
    by_contra hcounts
    have htick := step_tick (Bool.not_eq_false _ ▸ hcounts)
    rw [hsame] at htick
    exact absurd htick (by simp)
  · exact step_uncounted

/-- Both contenders leave between two ticks. -/
def everyoneLeaves : List (MatchCall Float32) :=
  [.submitLifecycle { actor := 0 }, .submitLifecycle { actor := 1 }]

/-- The tick that would disconnect both contenders throws, but it has been counted. -/
theorem everyoneLeaves_spoils :
    ∃ navMesh started, @Starts _ _ seriesTrigonometry navMesh duelConfig started ∧
      ∃ e, (after call started everyoneLeaves).step.2 = .error e ∧
        (after call started everyoneLeaves).step.1 ≠ after call started everyoneLeaves := by
  have hrun : (startedMatch duelMesh duelConfig).toOption.any (fun started =>
      (after call started everyoneLeaves).step.2.toOption.isNone &&
        (after call started everyoneLeaves).step.1.tick !=
          (after call started everyoneLeaves).tick) = true := by
    decide +kernel
  obtain ⟨started, hstarted, htest⟩ := except_any hrun
  obtain ⟨navMesh, -, hstarts⟩ := startedMatch_starts hstarted
  obtain ⟨hthrows, hchanged⟩ := Bool.and_eq_true_iff.mp htest
  obtain ⟨e, he⟩ := except_eq_error hthrows
  refine ⟨navMesh, started, hstarts, e, he, fun hsame => ?_⟩
  rw [hsame] at hchanged
  exact absurd hchanged (by simp)

/-- The rule for the tick that would disconnect both contenders. -/
theorem step_atomic_iff_everyoneLeaves :
    ∃ started e, startedMatch duelMesh duelConfig = .ok started ∧
      (after call started everyoneLeaves).step.2 = .error e ∧
      ((after call started everyoneLeaves).step.1 = after call started everyoneLeaves ↔
        (after call started everyoneLeaves).countsTick = false) := by
  have hrun : (startedMatch duelMesh duelConfig).toOption.any (fun started =>
      (after call started everyoneLeaves).step.2.toOption.isNone) = true := by
    decide +kernel
  obtain ⟨started, hstarted, hthrows⟩ := except_any hrun
  obtain ⟨e, he⟩ := except_eq_error hthrows
  exact ⟨started, e, hstarted, he, step_atomic_iff _ e he⟩

end OfflineMatch

end SurvivalArena
