import SurvivalArena.Simulation.SoundMatch

/-!
# What a tick books

The phases before the end of a tick leave the verdict and the numbers of the actors alone, also
where they throw.
-/

namespace SurvivalArena

open KeyedList

namespace OfflineMatch

variable {R : Type} [Precision R]

/-! ## What only the end of a tick changes -/

def verdict (game : OfflineMatch R) :
    UInt32 × MatchConfig R × MatchPhase × Option MatchResult :=
  (game.tick, game.config, game.phase, game.result)

/-- The verdict with the numbers of the actors. -/
def books (game : OfflineMatch R) :
    (UInt32 × MatchConfig R × MatchPhase × Option MatchResult) × List ActorId :=
  (game.verdict, game.actors.map CombatActor.id)

theorem setDestinations_books (game : OfflineMatch R) (commands : List (MatchCommand R)) :
    (game.setDestinations commands).1.books = game.books := by
  induction commands generalizing game with
  | nil => rfl
  | cons command commands ih =>
    rw [setDestinations]
    split
    · exact ih game
    · split
      · rfl
      · apply attempt_keeps books
        · rfl
        intro accepted
        split
        · exact ih _
        · rfl

theorem move_books (game : OfflineMatch R) : game.move.1.books = game.books := by
  have hids := congrArg (List.map Prod.fst) (moveActors_identities
    (1.0 / Precision.ofUInt32 game.config.tickRate) game.actors game.agents)
  rw [List.map_map, List.map_map] at hids
  exact Prod.ext rfl hids

theorem collectLoot_books (game : OfflineMatch R) : game.collectLoot.1.books = game.books :=
  Prod.ext rfl (collectLoot_reading (fun _ _ _ _ => rfl) (fun _ _ => rfl) game)

theorem fight_verdict (game : OfflineMatch R) (commands : List (MatchCommand R)) :
    (game.fight commands).1.verdict = game.verdict := by
  unfold fight
  apply attempt_keeps verdict
  · rfl
  intro actors
  apply attempt_keeps verdict
  · rfl
  intro ranks
  apply attempt_keeps verdict
  · rfl
  intro resolution
  exact attempt_keeps verdict rfl fun _ => rfl

theorem fight_books (game : OfflineMatch R) (commands : List (MatchCommand R)) :
    (game.fight commands).1.books = game.books :=
  Prod.ext (fight_verdict game commands)
    (fight_reading (fun _ _ _ _ => rfl) (fun _ _ => rfl) game commands)

theorem shrinkZone_books (game : OfflineMatch R) : game.shrinkZone.1.books = game.books :=
  Prod.ext rfl (shrinkZone_reading (fun _ _ _ _ => rfl) game)

/-! ## What a tick comes to -/

/-- A tick throws with its books as they were, or it comes to its end with them. -/
theorem resolve_cases (game : OfflineMatch R) (commands : List (MatchCommand R))
    (opening : List MatchEvent) :
    (∃ e, (game.resolve commands opening).2 = .error e ∧
      (game.resolve commands opening).1.books = game.books) ∨
    ∃ (last : OfflineMatch R) (earlier : List MatchEvent), last.books = game.books ∧
      game.resolve commands opening = attempt last.conclude.1 last.conclude.2 fun endEvents =>
        (last.conclude.1.recordEvents (earlier ++ endEvents), .ok ()) := by
  unfold resolve
  dsimp only
  have hdirected := setDestinations_books game commands
  generalize game.setDestinations commands = outcome at hdirected
  obtain ⟨directed, e | ⟨⟩⟩ := outcome
  · exact .inl ⟨e, rfl, hdirected⟩
  have hmoved := (move_books directed).trans hdirected
  rw [attempt_ok]
  dsimp only
  generalize directed.move = outcome at hmoved
  obtain ⟨moved, e | ⟨⟩⟩ := outcome
  · exact .inl ⟨e, rfl, hmoved⟩
  have hcollected := (collectLoot_books moved).trans hmoved
  rw [attempt_ok]
  dsimp only
  generalize moved.collectLoot = outcome at hcollected
  obtain ⟨collected, e | lootEvents⟩ := outcome
  · exact .inl ⟨e, rfl, hcollected⟩
  have hfought := (fight_books collected commands).trans hcollected
  rw [attempt_ok]
  dsimp only
  generalize collected.fight commands = outcome at hfought
  obtain ⟨fought, e | combatEvents⟩ := outcome
  · exact .inl ⟨e, rfl, hfought⟩
  have hshrunk := (shrinkZone_books fought).trans hfought
  rw [attempt_ok]
  dsimp only
  generalize fought.shrinkZone = outcome at hshrunk
  obtain ⟨shrunk, e | zoneEvents⟩ := outcome
  · exact .inl ⟨e, rfl, hshrunk⟩
  · exact .inr ⟨shrunk, opening ++ lootEvents ++ combatEvents ++ zoneEvents, hshrunk, rfl⟩

/-- A step throws with the books as they were, but for the number of the tick, or its tick comes
to the end. -/
theorem step_cases (game : OfflineMatch R) :
    (∃ e, game.step.2 = .error e ∧
      (game.step.1.books = game.books ∨ game.step.1.books = game.beginTick.books)) ∨
    game.countsTick = true ∧
      ∃ (last : OfflineMatch R) (earlier : List MatchEvent), last.books = game.beginTick.books ∧
        game.step = attempt last.conclude.1 last.conclude.2 fun endEvents =>
          (last.conclude.1.recordEvents (earlier ++ endEvents), .ok ()) := by
  unfold step stepImpl
  split
  · exact .inl ⟨_, rfl, .inl rfl⟩
  next hactive =>
    split
    · exact .inl ⟨_, rfl, .inl rfl⟩
    next hlast =>
      split
      · exact .inl ⟨_, rfl, .inl rfl⟩
      next hpaired =>
        dsimp only
        split
        · exact .inl ⟨_, rfl, .inr rfl⟩
        have hbooks : game.started.books = game.beginTick.books :=
          Prod.ext rfl (started_reading (fun _ _ _ _ => rfl) game _)
        rw [← started]
        cases game.started.selectCommands game.disconnecting game.queuedCommands with
        | error e => exact .inl ⟨e, rfl, .inr hbooks⟩
        | ok selection =>
          rw [attempt_ok]
          rcases resolve_cases game.started selection.selected.values
            (game.openingEvents selection) with ⟨e, hthrown, hsame⟩ | ⟨last, earlier, hsame, hended⟩
          · exact .inl ⟨e, hthrown, .inr (hsame.trans hbooks)⟩
          · refine .inr ⟨?_, last, earlier, hsame.trans hbooks, hended⟩
            have hactive : game.isActive = true := by simpa using hactive
            simp [countsTick, hactive, hlast, not_not.mp hpaired]

end OfflineMatch

end SurvivalArena
