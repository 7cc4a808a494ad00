import SurvivalArena.GameClient.PredictionAgreement

/-!
# Prediction history

The predictor keeps the inputs the server has not acknowledged, and a reconciliation
replays exactly these from the authoritative position.  Nothing here depends on the
numbers: it holds over floats as over exact numbers.
-/

namespace SurvivalArena

open Machine

variable {R : Type} [Precision R]

inductive PredictorCall (R : Type) where
  | setDestination (destination : Vec2 R)
  | advanceTick
  | reconcile (authoritativePosition : Vec2 R) (acknowledgedSequence : UInt32)

/-- The predictor next to all inputs that took a sequence. -/
structure PredictionLog (R : Type) where
  predictor : ClientPredictor R
  inputs : List (PredictedInput R) := []

namespace PredictionLog

def step (log : PredictionLog R) : PredictorCall R → PredictionLog R
  | .setDestination destination =>
    { log with predictor := (log.predictor.setDestination destination).1 }
  | .advanceTick =>
    let after := log.predictor.advanceTick.1
    { predictor := after
      inputs := if after.lastIssuedSequence = log.predictor.lastIssuedSequence then log.inputs
        else log.inputs ++ [log.predictor.nextInput] }
  | .reconcile authoritativePosition acknowledgedSequence =>
    { log with
      predictor :=
        (log.predictor.reconcile authoritativePosition acknowledgedSequence).1 }

/-- The history holds the issued inputs after the last acknowledged one. -/
structure Recorded (log : PredictionLog R) : Prop where
  numbered : ∀ index input, log.inputs[index]? = some input →
    input.sequence.toNat = index + 1
  issued : log.predictor.lastIssuedSequence.toNat = log.inputs.length
  acknowledged : log.predictor.lastAcknowledgedSequence ≤ log.predictor.lastIssuedSequence
  history : log.predictor.history =
    log.inputs.drop log.predictor.lastAcknowledgedSequence.toNat
  bounded : log.predictor.history.length ≤ maxClientInputHistory

omit [Precision R] in
/-- The sequences of the history are those after the last acknowledged one. -/
theorem Recorded.sequences {log : PredictionLog R} (h : log.Recorded) :
    log.predictor.history.map (fun input => input.sequence.toNat) =
      List.range' (log.predictor.lastAcknowledgedSequence.toNat + 1)
        (log.predictor.lastIssuedSequence.toNat -
          log.predictor.lastAcknowledgedSequence.toNat) := by
  apply List.ext_getElem
  · rw [List.length_map, h.history, List.length_drop, List.length_range', h.issued]
  · intro index hleft hright
    rw [List.getElem_map, List.getElem_range']
    have hget : log.predictor.history[index]? =
        log.inputs[log.predictor.lastAcknowledgedSequence.toNat + index]? := by
      rw [h.history, List.getElem?_drop]
    rw [List.length_map] at hleft
    rw [List.getElem?_eq_getElem hleft] at hget
    rw [h.numbered _ _ hget.symm]
    omega

omit [Precision R] in
/-- The inputs that are left after an acknowledgement. -/
theorem Recorded.history_filter {log : PredictionLog R} (h : log.Recorded) {sequence : UInt32}
    (hacknowledged : log.predictor.lastAcknowledgedSequence ≤ sequence) :
    log.predictor.history.filter (fun input => sequence < input.sequence) =
      log.inputs.drop sequence.toNat := by
  rw [h.history]
  exact filter_numbered h.numbered (UInt32.le_iff_toNat_le.mp hacknowledged)

end PredictionLog

/-! ## The calls -/

namespace NavAgent

theorem setDestination_error {mesh : NavMesh R} {agent : NavAgent R} {destination : Vec2 R}
    {e : Exception} (h : (agent.setDestination mesh destination).2 = .error e) :
    (agent.setDestination mesh destination).1 = agent := by
  unfold setDestination at h ⊢
  split_ifs at h ⊢ with hfinite
  cases hpath : mesh.findPath agent.position destination with
  | error thrown => rfl
  | ok path =>
    rw [hpath, attempt_ok] at h
    cases path with
    | none => cases h
    | some path =>
      cases hdistance : agent.position.distance destination with
      | error thrown => rfl
      | ok distance =>
        simp only [hdistance, attempt_ok] at h
        split_ifs at h

end NavAgent

namespace ClientPredictor

/-- The predictor after a change of its agent and its destination. -/
def Redirected (predictor after : ClientPredictor R) : Prop :=
  ∃ agent desiredDestination, after = { predictor with agent, desiredDestination }

/-- A destination leaves the history and the sequences alone. -/
theorem setDestination_redirected (predictor : ClientPredictor R) (destination : Vec2 R) :
    predictor.Redirected (predictor.setDestination destination).1 := by
  unfold setDestination
  split
  · exact ⟨_, _, rfl⟩
  · apply attempt_object (P := predictor.Redirected) ⟨_, _, rfl⟩
    intro path hpath
    split
    · exact ⟨_, _, rfl⟩
    · apply attempt_object (P := predictor.Redirected) ⟨_, _, rfl⟩
      intro accepted haccepted
      split <;> exact ⟨_, _, rfl⟩

theorem setDestination_error {predictor : ClientPredictor R} {destination : Vec2 R}
    {e : Exception} (h : (predictor.setDestination destination).2 = .error e) :
    (predictor.setDestination destination).1 = predictor := by
  unfold setDestination at h ⊢
  split
  · rfl
  · rename_i hfinite
    rw [if_neg hfinite] at h
    cases hpath : predictor.navMesh.findPath predictor.position destination with
    | error thrown => rfl
    | ok path =>
      rw [hpath, attempt_ok] at h
      rw [attempt_ok]
      split
      · rfl
      · rename_i hsome
        rw [if_neg hsome] at h
        dsimp only at h ⊢
        cases hdirected : (predictor.agent.setDestination predictor.navMesh destination).2 with
        | error thrown =>
          rw [attempt_error, NavAgent.setDestination_error hdirected]
        | ok accepted =>
          rw [hdirected, attempt_ok] at h
          split at h <;> cases h

/-- A tick finds no room for its input. -/
def Exhausted (predictor : ClientPredictor R) : Prop :=
  maxClientInputHistory ≤ predictor.history.length ∨
    predictor.lastIssuedSequence = 2 ^ 32 - 1

theorem advanceTick_exhausted {predictor : ClientPredictor R} (h : predictor.Exhausted) :
    ∃ e, predictor.advanceTick = (predictor, .error e) := by
  unfold advanceTick
  by_cases hfull : maxClientInputHistory ≤ predictor.history.length
  · exact ⟨_, if_pos hfull⟩
  · rw [if_neg hfull, if_pos (h.resolve_left hfull)]
    exact ⟨_, rfl⟩

/-- A tick with room for its input issues it, whatever comes of applying it. -/
theorem advanceTick_issues {predictor : ClientPredictor R} (h : ¬predictor.Exhausted) :
    predictor.advanceTick =
      let applied := apply predictor.navMesh predictor.agent predictor.nextInput
      (predictor.issue applied.1, applied.2.map fun _ => predictor.nextInput) := by
  obtain ⟨hroom, hleft⟩ := not_or.mp h
  unfold advanceTick
  rw [if_neg hroom, if_neg hleft]
  cases happlied : (apply predictor.navMesh predictor.agent predictor.nextInput).2 with
  | error e =>
    dsimp only
    rw [happlied]
    rfl
  | ok done =>
    dsimp only
    rw [happlied]
    rfl

theorem reconcile_above {predictor : ClientPredictor R} {sequence : UInt32}
    (h : predictor.lastIssuedSequence < sequence) (position : Vec2 R) :
    ∃ e, predictor.reconcile position sequence = (predictor, .error e) := by
  unfold reconcile
  rw [if_pos h]
  exact ⟨_, rfl⟩

theorem reconcile_stale {predictor : ClientPredictor R} {sequence : UInt32}
    (hissued : ¬predictor.lastIssuedSequence < sequence)
    (h : sequence < predictor.lastAcknowledgedSequence) (position : Vec2 R) :
    predictor.reconcile position sequence = (predictor, .ok ()) := by
  unfold reconcile
  rw [if_neg hissued, if_pos h]

theorem reconcile_current {predictor : ClientPredictor R} {sequence : UInt32}
    (hissued : ¬predictor.lastIssuedSequence < sequence)
    (h : ¬sequence < predictor.lastAcknowledgedSequence) (position : Vec2 R) :
    predictor.reconcile position sequence =
      match NavAgent.create predictor.navMesh position predictor.speed
        predictor.stoppingDistance with
      | .error e => (predictor, .error e)
      | .ok reconciled =>
        let history := predictor.history.filter fun input => sequence < input.sequence
        let replayed := replay predictor.navMesh reconciled history
        ({ predictor with
           agent := replayed.1
           history
           lastAcknowledgedSequence := sequence }, replayed.2) := by
  unfold reconcile
  rw [if_neg hissued, if_neg h]
  cases NavAgent.create predictor.navMesh position predictor.speed
    predictor.stoppingDistance <;> rfl

end ClientPredictor

/-! ## Runs -/

namespace PredictionLog

theorem begin_recorded {mesh : NavMesh R} {position : Vec2 R} {speed stoppingDistance : R}
    {predictor : ClientPredictor R}
    (h : ClientPredictor.create mesh position speed stoppingDistance = .ok predictor) :
    Recorded { predictor } := by
  obtain ⟨agent, -, h⟩ := except_bind_eq_ok.mp h
  cases h
  refine ⟨fun index input hinput => ?_, rfl, UInt32.le_refl 0, rfl, Nat.zero_le _⟩
  cases hinput

theorem recorded_setDestination {log : PredictionLog R} (h : log.Recorded)
    (destination : Vec2 R) : Recorded (log.step (.setDestination destination)) := by
  obtain ⟨agent, desired, hafter⟩ := log.predictor.setDestination_redirected destination
  rw [step, hafter]
  exact ⟨h.numbered, h.issued, h.acknowledged, h.history, h.bounded⟩

theorem recorded_advanceTick {log : PredictionLog R} (h : log.Recorded) :
    Recorded (log.step .advanceTick) := by
  by_cases hexhausted : log.predictor.Exhausted
  · obtain ⟨e, hafter⟩ := ClientPredictor.advanceTick_exhausted hexhausted
    rw [step, hafter]
    dsimp only
    rw [if_pos rfl]
    exact h
  · obtain ⟨hroom, hleft⟩ := not_or.mp hexhausted
    have hissued : (log.predictor.lastIssuedSequence + 1).toNat = log.inputs.length + 1 := by
      rw [UInt32.toNat_add, h.issued]
      have hlt := log.predictor.lastIssuedSequence.toNat_lt
      have hne : log.predictor.lastIssuedSequence.toNat ≠ 2 ^ 32 - 1 := fun heq =>
        hleft (UInt32.toNat_inj.mp heq)
      rw [h.issued] at hlt hne
      exact Nat.mod_eq_of_lt (show log.inputs.length + 1 < 2 ^ 32 by omega)
    have hchanged : log.predictor.lastIssuedSequence + 1 ≠
        log.predictor.lastIssuedSequence := by
      intro heq
      have hnat := congrArg UInt32.toNat heq
      rw [hissued, h.issued] at hnat
      omega
    have hacknowledged := UInt32.le_iff_toNat_le.mp h.acknowledged
    rw [h.issued] at hacknowledged
    have hstep : log.step .advanceTick =
        { predictor := log.predictor.issue (ClientPredictor.apply log.predictor.navMesh
            log.predictor.agent log.predictor.nextInput).1
          inputs := log.inputs ++ [log.predictor.nextInput] } := by
      simp [step, ClientPredictor.advanceTick_issues hexhausted, ClientPredictor.issue,
        hchanged]
    rw [hstep]
    refine ⟨fun index input hinput => ?_, ?_, ?_, ?_, ?_⟩
    · obtain hlt | hge := lt_or_ge index log.inputs.length
      · rw [List.getElem?_append_left hlt] at hinput
        exact h.numbered index input hinput
      · rw [List.getElem?_append_right hge, List.getElem?_singleton] at hinput
        split at hinput
        · cases hinput
          exact hissued.trans (by omega)
        · cases hinput
    · have hlength : (log.inputs ++ [log.predictor.nextInput]).length =
          log.inputs.length + 1 := List.length_append
      exact hissued.trans hlength.symm
    · exact UInt32.le_iff_toNat_le.mpr (hissued ▸ Nat.le_succ_of_le hacknowledged)
    · have hdrop : (log.inputs ++ [log.predictor.nextInput]).drop
          log.predictor.lastAcknowledgedSequence.toNat =
            log.predictor.history ++ [log.predictor.nextInput] := by
        rw [h.history, List.drop_append_of_le_length hacknowledged]
      exact hdrop.symm
    · show (log.predictor.history ++ [_]).length ≤ _
      rw [List.length_append]
      exact not_le.mp hroom

theorem recorded_reconcile {log : PredictionLog R} (h : log.Recorded) (position : Vec2 R)
    (sequence : UInt32) : Recorded (log.step (.reconcile position sequence)) := by
  by_cases hissued : log.predictor.lastIssuedSequence < sequence
  · obtain ⟨e, hafter⟩ := ClientPredictor.reconcile_above hissued position
    rw [step, hafter]
    exact h
  by_cases hstale : sequence < log.predictor.lastAcknowledgedSequence
  · rw [step, ClientPredictor.reconcile_stale hissued hstale]
    exact h
  rw [step, ClientPredictor.reconcile_current hissued hstale]
  cases NavAgent.create log.predictor.navMesh position log.predictor.speed
      log.predictor.stoppingDistance with
  | error e => exact h
  | ok reconciled =>
    have hfilter := h.history_filter (UInt32.not_lt.mp hstale)
    refine ⟨h.numbered, h.issued, UInt32.not_lt.mp hissued, hfilter, ?_⟩
    exact (List.length_filter_le _ _).trans h.bounded

theorem recorded_step {log : PredictionLog R} (call : PredictorCall R) (h : log.Recorded) :
    Recorded (log.step call) := by
  cases call with
  | setDestination destination => exact recorded_setDestination h destination
  | advanceTick => exact recorded_advanceTick h
  | reconcile position sequence => exact recorded_reconcile h position sequence

/-- What a call does to a predictor that has issued the inputs of the log.  A call that
throws before it applies an input leaves the predictor as it was; while an input is applied
its sequence is taken, and so is the acknowledgement. -/
def Answers (log : PredictionLog R) : PredictorCall R → Prop
  | .setDestination destination =>
    let called := log.predictor.setDestination destination
    log.predictor.Redirected called.1 ∧
      ∀ e, called.2 = .error e → called.1 = log.predictor
  | .advanceTick =>
    let predictor := log.predictor
    (predictor.Exhausted → ∃ e, predictor.advanceTick = (predictor, .error e)) ∧
      (¬predictor.Exhausted →
        let applied :=
          ClientPredictor.apply predictor.navMesh predictor.agent predictor.nextInput
        predictor.advanceTick =
          (predictor.issue applied.1, applied.2.map fun _ => predictor.nextInput))
  | .reconcile position sequence =>
    let predictor := log.predictor
    let called := predictor.reconcile position sequence
    (predictor.lastIssuedSequence < sequence → ∃ e, called = (predictor, .error e)) ∧
      (sequence < predictor.lastAcknowledgedSequence → called = (predictor, .ok ())) ∧
      (predictor.lastAcknowledgedSequence ≤ sequence →
        sequence ≤ predictor.lastIssuedSequence →
        match NavAgent.create predictor.navMesh position predictor.speed
          predictor.stoppingDistance with
        | .error e => called = (predictor, .error e)
        | .ok reconciled =>
          let history := log.inputs.drop sequence.toNat
          let replayed := ClientPredictor.replay predictor.navMesh reconciled history
          called = ({ predictor with
            agent := replayed.1
            history
            lastAcknowledgedSequence := sequence }, replayed.2))

theorem Recorded.answers {log : PredictionLog R} (h : log.Recorded) (call : PredictorCall R) :
    log.Answers call := by
  cases call with
  | setDestination destination =>
    exact ⟨log.predictor.setDestination_redirected destination,
      fun e => ClientPredictor.setDestination_error⟩
  | advanceTick =>
    exact ⟨ClientPredictor.advanceTick_exhausted, ClientPredictor.advanceTick_issues⟩
  | reconcile position sequence =>
    refine ⟨fun habove => ClientPredictor.reconcile_above habove position,
      fun hstale => ?_, fun hcurrent hissued => ?_⟩
    · have hissued : ¬log.predictor.lastIssuedSequence < sequence :=
        UInt32.not_lt.mpr ((UInt32.le_of_lt hstale).trans h.acknowledged)
      exact ClientPredictor.reconcile_stale hissued hstale position
    · have hreconcile := ClientPredictor.reconcile_current (UInt32.not_lt.mpr hissued)
        (UInt32.not_lt.mpr hcurrent) position
      rw [h.history_filter hcurrent] at hreconcile
      cases hcreate : NavAgent.create log.predictor.navMesh position log.predictor.speed
          log.predictor.stoppingDistance with
      | error e =>
        rw [hcreate] at hreconcile
        exact hreconcile
      | ok reconciled =>
        rw [hcreate] at hreconcile
        exact hreconcile

/-- After every run the history holds the inputs after the last acknowledged one, with
contiguous sequences, and a reconciliation replays exactly these. -/
theorem prediction_replays {mesh : NavMesh R} {position : Vec2 R}
    {speed stoppingDistance : R} {predictor : ClientPredictor R}
    (h : ClientPredictor.create mesh position speed stoppingDistance = .ok predictor)
    (calls : List (PredictorCall R)) :
    let log := run step { predictor } calls
    let after := log.predictor
    log.Recorded ∧
      after.history.map (fun input => input.sequence.toNat) =
        List.range' (after.lastAcknowledgedSequence.toNat + 1)
          (after.lastIssuedSequence.toNat - after.lastAcknowledgedSequence.toNat) ∧
      ∀ call, log.Answers call := by
  intro log after
  have hrecorded : log.Recorded :=
    run_invariant (P := fun _ => True) (fun _ call _ hlog => recorded_step call hlog)
      (begin_recorded h) fun _ _ => trivial
  exact ⟨hrecorded, hrecorded.sequences, hrecorded.answers⟩

end PredictionLog

/-! ## A destination out of reach -/

/-- Two triangles that no edge connects, over the rational numbers. -/
def islandsMesh : Except Exception (NavMesh (Extended ℚ)) :=
  NavMesh.build [⟨.finite 0, .finite 0⟩, ⟨.finite 8, .finite 0⟩, ⟨.finite 0, .finite 8⟩,
    ⟨.finite 16, .finite 0⟩, ⟨.finite 24, .finite 0⟩, ⟨.finite 16, .finite 8⟩]
    [⟨0, 1, 2⟩, ⟨3, 4, 5⟩] (.finite 8)

def islandsPredictor : Except Exception (ClientPredictor (Extended ℚ)) := do
  let mesh ← islandsMesh
  ClientPredictor.create mesh ⟨.finite 1, .finite 1⟩ (.finite 6) (.finite (1 / 10))

def walkOnFirstIsland : List (PredictorCall (Extended ℚ)) :=
  [.setDestination ⟨.finite 4, .finite 1⟩, .advanceTick]

/-- The server puts the predicted agent on the other island: the call throws, and the agent
is there. -/
theorem otherIsland_moves :
    ∃ mesh predictor, islandsMesh = .ok mesh ∧
      ClientPredictor.create mesh ⟨.finite 1, .finite 1⟩ (.finite 6) (.finite (1 / 10)) =
        .ok predictor ∧
      let before := (run PredictionLog.step { predictor } walkOnFirstIsland).predictor
      let called := before.reconcile ⟨.finite 17, .finite 1⟩ 0
      called.2 = .error (.runtimeError "stored prediction destination became invalid") ∧
        called.1.position ≠ before.position := by
  have hrun : islandsPredictor.toOption.any (fun predictor =>
      let before := (run PredictionLog.step { predictor } walkOnFirstIsland).predictor
      let called := before.reconcile ⟨.finite 17, .finite 1⟩ 0
      decide (called.2 = .error (.runtimeError
        "stored prediction destination became invalid") ∧
          called.1.position ≠ before.position)) = true := by
    decide +kernel
  obtain ⟨predictor, hpredictor, htest⟩ := except_any hrun
  obtain ⟨mesh, hmesh, hcreate⟩ := except_bind_eq_ok.mp hpredictor
  exact ⟨mesh, predictor, hmesh, hcreate, of_decide_eq_true htest⟩

/-- The rule for a walk on the first island. -/
theorem prediction_replays_walk :
    ∃ predictor, islandsPredictor = .ok predictor ∧
      let log := run PredictionLog.step { predictor } walkOnFirstIsland
      log.predictor.history.length = 1 ∧ log.Recorded ∧
        log.Answers (.reconcile ⟨.finite 1, .finite 1⟩ 0) := by
  have hrun : islandsPredictor.toOption.any (fun predictor =>
      decide ((run PredictionLog.step { predictor } walkOnFirstIsland).predictor.history.length
        = 1)) = true := by
    decide +kernel
  obtain ⟨predictor, hpredictor, htest⟩ := except_any hrun
  obtain ⟨mesh, hmesh, hcreate⟩ := except_bind_eq_ok.mp hpredictor
  have hreplays := PredictionLog.prediction_replays hcreate walkOnFirstIsland
  exact ⟨predictor, hpredictor, of_decide_eq_true htest, hreplays.1, hreplays.2.2 _⟩

end SurvivalArena
