import SurvivalArena.Simulation.MatchBooks
import SurvivalArena.Simulation.SafeZoneDamage

/-!
# How a match ends

Only the end of a tick decides a match, and a decided match does not change any more.
-/

namespace SurvivalArena

open KeyedList Machine

namespace OfflineMatch

variable {R : Type}

theorem eq_singleton_of_nodup {ids : List ActorId} {id : ActorId} (hnodup : ids.Nodup)
    (hmem : id ∈ ids) (hall : ∀ other ∈ ids, other = id) : ids = [id] := by
  rw [List.eq_replicate_iff.mpr ⟨rfl, hall⟩] at hnodup ⊢
  have hlength := List.nodup_replicate.mp hnodup
  have hpositive := List.length_pos_of_mem hmem
  rw [show ids.length = 1 by omega]
  rfl

theorem limitActor_id (winner : ActorId) (actor : CombatActor R) :
    (limitActor winner actor).id = actor.id := by
  unfold limitActor
  split
  · rfl
  · split <;> rfl

theorem limitActor_contends (winner : ActorId) (actor : CombatActor R) :
    (limitActor winner actor).contends = (actor.contends && decide (actor.id = winner)) := by
  unfold limitActor
  cases hcontends : actor.contends with
  | false => simp [hcontends]
  | true =>
    by_cases hwinner : actor.id = winner
    · simpa [hwinner, CombatActor.contends, CombatActor.isContender] using hcontends
    · simp [hwinner, CombatActor.contends]

/-- The time limit leaves the winner alone. -/
theorem limited_winner {actors : List (CombatActor R)} (hdistinct : Distinct actors)
    {winner : CombatActor R} (hmem : winner ∈ actors) (hcontends : winner.contends = true) :
    ((actors.map (limitActor winner.id)).filter CombatActor.contends).map CombatActor.id =
      [winner.id] := by
  have hlimited : Distinct (actors.map (limitActor winner.id)) :=
    hdistinct.congr (map_reading (limitActor_id winner.id))
  apply eq_singleton_of_nodup (hlimited.sublist (List.filter_sublist.map _))
  · apply List.mem_map.mpr
    refine ⟨_, List.mem_filter.mpr ⟨List.mem_map_of_mem hmem, ?_⟩, limitActor_id _ winner⟩
    simp [limitActor_contends, hcontends]
  · intro id hid
    obtain ⟨limited, hlimited, rfl⟩ := List.mem_map.mp hid
    obtain ⟨hfrom, halive⟩ := List.mem_filter.mp hlimited
    obtain ⟨actor, -, rfl⟩ := List.mem_map.mp hfrom
    simp only [limitActor_contends, Bool.and_eq_true, decide_eq_true_eq] at halive
    rw [limitActor_id, halive.2]

variable [Precision R] {game : OfflineMatch R}

/-! ## The verdict -/

/-- No result yet. -/
def Open (game : OfflineMatch R) : Prop :=
  game.result = none ∧ game.phase ≠ .finished

/-- The result names the only contender that is alive. -/
structure Won (game : OfflineMatch R) (result : MatchResult) : Prop where
  recorded : game.result = some result
  phase : game.phase = .finished
  finishedTick : result.finishedTick = game.tick
  winner : (game.actors.filter CombatActor.contends).map CombatActor.id = [result.winner]
  limit : result.reason = .timeLimit → game.config.hardTimeoutTick ≤ game.tick

/-- Two contenders go on, before the time limit. -/
structure Proceeds (game : OfflineMatch R) : Prop where
  contenders : 2 ≤ countAliveContenders game.actors
  early : game.tick < game.config.hardTimeoutTick
  phase : game.phase =
    if game.config.suddenDeathTick ≤ game.tick then .suddenDeath else .running

def Outcome (game : OfflineMatch R) : Prop :=
  game.Open ∨ ∃ result, game.Won result

theorem Open.congr {final : OfflineMatch R} (h : game.Open) (hbooks : final.books = game.books) :
    final.Open := by
  simp only [books, verdict, Prod.mk.injEq] at hbooks
  rw [Open, hbooks.1.2.2.1, hbooks.1.2.2.2]
  exact h

/-- What a method leaves: the match is won, or it is open and proceeds if the method returned. -/
inductive Verdict {α : Type} (ended : OfflineMatch R × Except Exception α) : Prop
  | won (result : MatchResult) (h : ended.1.Won result)
  | goesOn (h : ended.1.Open) (returned : ∀ a, ended.2 = .ok a → ended.1.Proceeds)

theorem Verdict.outcome {α : Type} {ended : OfflineMatch R × Except Exception α}
    (h : Verdict ended) : ended.1.Outcome := by
  cases h with
  | won result hwon => exact .inr ⟨result, hwon⟩
  | goesOn hopen => exact .inl hopen

theorem Open.verdict {α : Type} {e : Exception} (h : game.Open) :
    Verdict (game, (.error e : Except Exception α)) :=
  .goesOn h fun _ hreturned => by cases hreturned

theorem Open.conclude (h : game.Open) (hdistinct : Distinct game.actors) :
    Verdict game.conclude := by
  unfold OfflineMatch.conclude
  dsimp only
  split
  · exact h.verdict
  split
  · apply attempt_induct
    · exact fun e _ => h.verdict
    intro winner hwinner
    have hsole : (game.actors.filter CombatActor.contends).map CombatActor.id = [winner] := by
      unfold soleAliveContender at hwinner
      split at hwinner
      · cases hwinner
      next actor hactor =>
        cases hwinner
        rw [hactor]
        rfl
      · cases hwinner
    have hwon : (game.finish winner .lastSurvivor).Won ⟨winner, .lastSurvivor, game.tick⟩ :=
      ⟨rfl, rfl, rfl, hsole, fun hreason => by cases hreason⟩
    exact .won _ hwon
  next hnone hmany =>
    have hcontends : ∃ actor ∈ game.actors, actor.contends = true :=
      List.countP_pos_iff.mp (Nat.pos_of_ne_zero hnone)
    split
    next hlate =>
      apply attempt_induct
      · exact fun e _ => h.verdict
      intro winner hwinner
      rw [buildContenderRanks_eq hcontends] at hwinner
      obtain ⟨actor, hactor, hcontending, rfl⟩ := selectSurvivalWinner_contends hcontends hwinner
      have hwon : ({ game with actors := game.actors.map (limitActor actor.id) }.finish
          actor.id .timeLimit).Won ⟨actor.id, .timeLimit, game.tick⟩ :=
        ⟨rfl, rfl, rfl, limited_winner hdistinct hactor hcontending, fun _ => hlate⟩
      exact .won _ hwon
    next hearly =>
      have hphase : (if game.config.suddenDeathTick ≤ game.tick then MatchPhase.suddenDeath
          else .running) ≠ .finished := by
        split <;> simp
      have htwo : 2 ≤ countAliveContenders game.actors := by
        omega
      exact .goesOn ⟨h.1, hphase⟩ fun _ _ => ⟨htwo, not_le.mp hearly, rfl⟩

/-- A step is taken by an open match only. -/
theorem Outcome.open_of_active (h : game.Outcome) (hactive : game.isActive = true) :
    game.Open := by
  apply h.resolve_right
  rintro ⟨result, hwon⟩
  simp [isActive, hwon.phase] at hactive

/-- The step lemma. -/
theorem Outcome.step (h : game.Outcome) (hdistinct : Distinct game.actors) :
    Verdict game.step := by
  cases hcounts : game.countsTick with
  | false =>
    rcases game.step_cases with ⟨e, hthrown, -⟩ | ⟨hcounted, -⟩
    · rw [← Prod.eta game.step, step_uncounted hcounts, hthrown]
      rcases h with hopen | ⟨result, hwon⟩
      · exact hopen.verdict
      · exact .won result hwon
    · cases hcounts.symm.trans hcounted
  | true =>
    simp only [countsTick, Bool.and_eq_true] at hcounts
    have hopen := h.open_of_active hcounts.1.1
    have hbegun : game.beginTick.Open := hopen
    rcases game.step_cases with ⟨e, hthrown, hsame⟩ | ⟨-, last, earlier, hbooks, hended⟩
    · rw [← Prod.eta game.step, hthrown]
      rcases hsame with hsame | hsame
      · exact (hopen.congr hsame).verdict
      · exact (hbegun.congr hsame).verdict
    · have hlast := hbegun.congr hbooks
      have hverdict := hlast.conclude (hdistinct.congr (congrArg Prod.snd hbooks))
      rw [hended]
      cases hverdict with
      | won result hwon =>
        apply attempt_induct
        · exact fun e _ => .won result hwon
        · exact fun endEvents _ => .won result ⟨hwon.1, hwon.2, hwon.3, hwon.4, hwon.5⟩
      | goesOn hgoing hreturned =>
        apply attempt_induct
        · exact fun e _ => hgoing.verdict
        intro endEvents hended
        have hproceeds := hreturned endEvents hended
        exact .goesOn hgoing fun _ _ => ⟨hproceeds.1, hproceeds.2, hproceeds.3⟩

/-! ## Runs -/

/-- What the calls of a match keep. -/
structure Ruled (game : OfflineMatch R) : Prop where
  distinct : Distinct game.actors
  outcome : game.Outcome

theorem Ruled.step (h : game.Ruled) : game.step.1.Ruled := by
  refine ⟨h.distinct.congr ?_, (h.outcome.step h.distinct).outcome⟩
  rcases game.step_cases with ⟨e, -, hsame | hsame⟩ | ⟨-, last, earlier, hbooks, hended⟩
  · exact congrArg Prod.snd hsame
  · exact congrArg Prod.snd hsame
  · rw [hended]
    have hids := (conclude_reading (fun _ _ _ _ => rfl) last).trans (congrArg Prod.snd hbooks)
    exact attempt_keeps (fun final => (actors final).map CombatActor.id) hids fun _ => hids

theorem Ruled.queued (h : game.Ruled) (queuedCommands : List (MatchCommand R))
    (queuedLifecycleCommands : List MatchLifecycleCommand) (events : List MatchEvent) :
    { game with queuedCommands, queuedLifecycleCommands, events }.Ruled where
  distinct := h.distinct
  outcome := h.outcome.imp id fun ⟨result, hwon⟩ =>
    ⟨result, hwon.1, hwon.2, hwon.3, hwon.4, hwon.5⟩

theorem Ruled.call (h : game.Ruled) (call : MatchCall R) : (game.call call).1.Ruled := by
  cases call with
  | submit command =>
    rw [OfflineMatch.call, submit]
    split
    · exact h
    · exact h.queued _ _ _
  | submitLifecycle command =>
    rw [OfflineMatch.call, submitLifecycle]
    split
    · exact h
    · exact h.queued _ _ _
  | step => exact h.step
  | drainEvents => exact h.queued _ _ _

/-- Only what a decided match has not yet told changes. -/
theorem Won.call {result : MatchResult} (h : game.Won result) (call : MatchCall R) :
    (game.call call).1 = { game with events := (game.call call).1.events } := by
  have hinactive : game.isActive = false := by
    simp [isActive, h.phase]
  cases call with
  | submit command => simp [OfflineMatch.call, submit, hinactive]
  | submitLifecycle command => simp [OfflineMatch.call, submitLifecycle, hinactive]
  | step => simp [OfflineMatch.call, OfflineMatch.step, hinactive]
  | drainEvents => rfl

theorem Won.after {result : MatchResult} (h : game.Won result) (calls : List (MatchCall R)) :
    after OfflineMatch.call game calls =
      { game with events := (after OfflineMatch.call game calls).events } := by
  induction calls generalizing game with
  | nil => rfl
  | cons call calls ih =>
    have hcalled := h.call call
    have hwon : (game.call call).1.Won result := by
      rw [hcalled]
      exact ⟨h.1, h.2, h.3, h.4, h.5⟩
    rw [after_cons, ih hwon, hcalled]

variable [Trigonometry R] {navMesh : NavMesh R} {config : MatchConfig R} {begun : OfflineMatch R}

theorem Starts.distinct (h : Starts navMesh config begun) : Distinct begun.actors := by
  obtain ⟨created, hcreated, hbegun⟩ := except_bind_eq_ok.mp h
  have hchecked := checked_of_valid (create_config hcreated)
  obtain ⟨-, -, hcreated⟩ := except_bind_eq_ok.mp hcreated
  cases hcreated
  obtain ⟨-, hbegun⟩ := throwIf_bind_eq_ok.mp hbegun
  obtain ⟨spawned, hspawned, hbegun⟩ := except_bind_eq_ok.mp hbegun
  cases hbegun
  obtain ⟨-, hspawned⟩ := throwIf_bind_eq_ok.mp hspawned
  obtain ⟨state, hstate, hspawned⟩ := except_bind_eq_ok.mp hspawned
  obtain ⟨agents, -, hspawned⟩ := except_bind_eq_ok.mp hspawned
  obtain ⟨loot, -, hspawned⟩ := except_bind_eq_ok.mp hspawned
  cases hspawned
  have hids := numbered_of_populated (spawnActors_populated hstate).1
    ((spawnActors_length hstate).trans_le hchecked.actors)
  apply List.Nodup.of_map UInt32.toNat
  rw [List.map_map]
  exact hids ▸ List.nodup_range

theorem Starts.ruled (h : Starts navMesh config begun) : begun.Ruled := by
  obtain ⟨created, hcreated, hstarted⟩ := except_bind_eq_ok.mp h
  have hspawned := start_spawned hcreated hstarted
  exact ⟨h.distinct, .inl ⟨hspawned.result, by simp [hspawned.phase]⟩⟩

/-- In every state of a match, also after steps that threw, there is no result, or it names the
only contender alive; then nothing but the pending events changes any more.  A step that returns
decides the match or leaves two contenders before the time limit. -/
theorem match_outcome (hstarts : Starts navMesh config begun) (calls : List (MatchCall R)) :
    let game := after OfflineMatch.call begun calls
    game.Outcome ∧
      (∀ result, game.Won result → ∀ later, after OfflineMatch.call game later =
        { game with events := (after OfflineMatch.call game later).events }) ∧
      (game.step.2 = .ok () → (∃ result, game.step.1.Won result) ∨ game.step.1.Proceeds) := by
  have hruled : (after OfflineMatch.call begun calls).Ruled :=
    run_invariant (P := fun _ => True) (fun _ call _ h => h.call call) hstarts.ruled
      fun _ _ => trivial
  refine ⟨hruled.outcome, fun _ hwon => hwon.after, fun hreturned => ?_⟩
  cases hruled.outcome.step hruled.distinct with
  | won result hwon => exact .inl ⟨result, hwon⟩
  | goesOn _ hproceeds => exact .inr (hproceeds () hreturned)

/-- The first contender leaves, and a tick ends the match of two. -/
def firstLeaves : List (MatchCall Float32) :=
  [.submitLifecycle { actor := 0 }, .step]

/-- The rule for a match that the first contender leaves. -/
theorem match_outcome_firstLeaves :
    ∃ begun : OfflineMatch Float32, startedMatch duelMesh duelConfig = .ok begun ∧
      (after OfflineMatch.call begun firstLeaves).Won ⟨1, .lastSurvivor, 1⟩ := by
  have hrun : (startedMatch duelMesh duelConfig).toOption.any (fun begun =>
      (after OfflineMatch.call begun firstLeaves).result == some ⟨1, .lastSurvivor, 1⟩) = true := by
    decide +kernel
  obtain ⟨begun, hbegun, hended⟩ := except_any hrun
  obtain ⟨navMesh, -, hstarts⟩ := startedMatch_starts hbegun
  have hresult : (after OfflineMatch.call begun firstLeaves).result =
      some ⟨1, .lastSurvivor, 1⟩ := by simpa using hended
  refine ⟨begun, hbegun, ?_⟩
  rcases (@match_outcome _ _ seriesTrigonometry _ _ _ hstarts firstLeaves).1 with
    hopen | ⟨result, hwon⟩
  · cases hopen.1.symm.trans hresult
  · cases hwon.recorded.symm.trans hresult
    exact hwon

end OfflineMatch

end SurvivalArena
