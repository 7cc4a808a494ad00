import SurvivalArena.Lobby.RegistryRun

/-!
# The history of each reservation

Every call moves each reservation along its life, and what the call reports about
the reservation is what the move adds to its history.
-/

namespace SurvivalArena

open OrderedMap ReservationPhase

namespace WorkerRegistry

/-- The reservation that a worker holds in a state of the registry. -/
def reservationOf (registry : WorkerRegistry) (worker : WorkerId) :
    Option ReservationId :=
  registry.workers[worker]?.bind WorkerRecord.reservation

/-- What an event says about a reservation; the events of a match are about the
reservation that its worker held. -/
def eventSteps (before : WorkerRegistry) (reservation : ReservationId) :
    WorkerEvent → List ReservationStep
  | .reservationReady other _ _ _ => if other = reservation then [.ready] else []
  | .reservationFailed other _ => if other = reservation then [.failed] else []
  | .matchFinished worker _ =>
    if before.reservationOf worker = some reservation then [.finished] else []
  | .matchUnavailable worker _ =>
    if before.reservationOf worker = some reservation then [.unavailable] else []

/-- What an accepted action begins or ends. -/
def actionSteps (reservation : ReservationId) (call : RegistryCall) :
    List ReservationStep :=
  match call with
  | .execute (.reserve action) _ =>
    if action.reservation = reservation then [.accepted] else []
  | .execute (.cancel other _) _ => if other = reservation then [.cancelled] else []
  | _ => []

/-- What a call adds to the history of a reservation. -/
def steps (before : WorkerRegistry) (call : RegistryCall) (result : WorkerRegistryResult)
    (reservation : ReservationId) : List ReservationStep :=
  (if result.accepted then actionSteps reservation call else []) ++
    result.events.flatMap (before.eventSteps reservation)

/-- The histories of all reservations over a run. -/
def history (registry : WorkerRegistry) (reservation : ReservationId) :
    List RegistryCall → List ReservationStep
  | [] => []
  | call :: calls =>
    registry.steps call (registry.call call).2 reservation ++
      history (registry.call call).1 reservation calls

/-- Where a reservation is in its life; `used` are the reservations asked for. -/
def InPhase (used : List ReservationId) (registry : WorkerRegistry)
    (reservation : ReservationId) : ReservationPhase → Prop
  | .fresh => reservation ∉ used ∧ registry.Free reservation
  | .reserved => reservation ∈ used ∧ registry.Holds reservation .reserved
  | .cancelling => reservation ∈ used ∧ registry.Holds reservation .cancelling
  | .active => reservation ∈ used ∧ registry.Holds reservation .active
  | .ended => reservation ∈ used ∧ registry.Free reservation

/-- The phase of a reservation whose holder is in the state. -/
def phaseOf : WorkerState → ReservationPhase
  | .idle => .ended
  | .reserved => .reserved
  | .cancelling => .cancelling
  | .active => .active

section Phases

variable {before after : WorkerRegistry} {used : List ReservationId}
  {worker : WorkerId} {record : WorkerRecord} {reservation : ReservationId}

theorem Consistent.not_idle (h : before.Consistent)
    (hfound : before.workers[worker]? = some record)
    (hheld : record.reservation = some reservation) : record.state ≠ .idle := by
  have hsome := (h.records worker record hfound).reservation
  rw [hheld] at hsome
  exact of_decide_eq_true hsome.symm

/-- The state of the only holder. -/
theorem Consistent.holds_iff (h : before.Consistent)
    (hfound : before.workers[worker]? = some record)
    (hheld : record.reservation = some reservation) (state : WorkerState) :
    before.Holds reservation state ↔ record.state = state := by
  constructor
  · rintro ⟨other, otherRecord, hother, hotherHeld, hstate⟩
    obtain rfl := h.holders other worker otherRecord record reservation hother hfound
      hotherHeld hheld
    obtain rfl := Option.some.inj (hother.symm.trans hfound)
    exact hstate
  · exact fun hstate => ⟨worker, record, hfound, hheld, hstate⟩

/-- A held reservation is in the phase of its holder. -/
theorem Consistent.inPhase_held (h : before.Consistent)
    (hfound : before.workers[worker]? = some record)
    (hheld : record.reservation = some reservation) {phase : ReservationPhase}
    (hphase : InPhase used before reservation phase) :
    reservation ∈ used ∧ phase = phaseOf record.state := by
  have hfree : ¬before.Free reservation := fun hfree =>
    hfree worker record hfound hheld
  cases phase with
  | fresh => exact absurd hphase.2 hfree
  | ended => exact absurd hphase.2 hfree
  | reserved =>
    rw [(h.holds_iff hfound hheld .reserved).mp hphase.2]
    exact ⟨hphase.1, rfl⟩
  | cancelling =>
    rw [(h.holds_iff hfound hheld .cancelling).mp hphase.2]
    exact ⟨hphase.1, rfl⟩
  | active =>
    rw [(h.holds_iff hfound hheld .active).mp hphase.2]
    exact ⟨hphase.1, rfl⟩

/-- The phase of a reservation that a worker holds after a change. -/
theorem inPhase_holder (hfound : after.workers[worker]? = some record)
    (hheld : record.reservation = some reservation) (hstate : record.state ≠ .idle)
    (hused : reservation ∈ used) :
    InPhase used after reservation (phaseOf record.state) := by
  have hholds : after.Holds reservation record.state :=
    ⟨worker, record, hfound, hheld, rfl⟩
  cases hcase : record.state with
  | idle => exact absurd hcase hstate
  | reserved => exact ⟨hused, hcase ▸ hholds⟩
  | cancelling => exact ⟨hused, hcase ▸ hholds⟩
  | active => exact ⟨hused, hcase ▸ hholds⟩

/-- The same workers hold the reservation. -/
def SameHolders (before after : WorkerRegistry) (reservation : ReservationId) : Prop :=
  ∀ (worker : WorkerId) (record : WorkerRecord),
    record.reservation = some reservation →
    (after.workers[worker]? = some record ↔ before.workers[worker]? = some record)

theorem InPhase.same (hsame : SameHolders before after reservation)
    {later : List ReservationId} (hused : reservation ∈ later ↔ reservation ∈ used)
    {phase : ReservationPhase} (h : InPhase used before reservation phase) :
    InPhase later after reservation phase := by
  have hfree : before.Free reservation → after.Free reservation :=
    fun hfree worker record hfound hheld =>
      hfree worker record ((hsame worker record hheld).mp hfound) hheld
  have hholds : ∀ state, before.Holds reservation state →
      after.Holds reservation state := by
    rintro state ⟨worker, record, hfound, hheld, hstate⟩
    exact ⟨worker, record, (hsame worker record hheld).mpr hfound, hheld, hstate⟩
  cases phase with
  | fresh => exact ⟨fun hmem => h.1 (hused.mp hmem), hfree h.2⟩
  | ended => exact ⟨hused.mpr h.1, hfree h.2⟩
  | reserved => exact ⟨hused.mpr h.1, hholds _ h.2⟩
  | cancelling => exact ⟨hused.mpr h.1, hholds _ h.2⟩
  | active => exact ⟨hused.mpr h.1, hholds _ h.2⟩

/-- A worker that neither held nor holds the reservation may change. -/
theorem sameHolders_insert {new : WorkerRecord}
    (hworkers : after.workers = before.workers.insert worker new)
    (hold : ∀ record, before.workers[worker]? = some record →
      record.reservation ≠ some reservation)
    (hnew : new.reservation ≠ some reservation) :
    SameHolders before after reservation := by
  intro other otherRecord hheld
  rw [hworkers, getElem?_insert]
  split
  · rename_i heq
    rw [heq]
    constructor
    · intro hsome
      obtain rfl := Option.some.inj hsome
      exact absurd hheld hnew
    · exact fun hfound => absurd hheld (hold otherRecord hfound)
  · exact Iff.rfl

theorem sameHolders_erase (hworkers : after.workers = before.workers.erase worker)
    (hold : ∀ record, before.workers[worker]? = some record →
      record.reservation ≠ some reservation) :
    SameHolders before after reservation := by
  intro other otherRecord hheld
  rw [hworkers, getElem?_erase]
  split
  · rename_i heq
    rw [heq]
    exact ⟨nofun, fun hfound => absurd hheld (hold otherRecord hfound)⟩
  · exact Iff.rfl

/-- The only holder let go of the reservation. -/
theorem Consistent.free_after (h : before.Consistent)
    (hfound : before.workers[worker]? = some record)
    (hheld : record.reservation = some reservation)
    (hothers : ∀ (other : WorkerId) (otherRecord : WorkerRecord),
      after.workers[other]? = some otherRecord →
      otherRecord.reservation = none ∨ other ≠ worker ∧
        before.workers[other]? = some otherRecord) : after.Free reservation := by
  intro other otherRecord hother hotherHeld
  rcases hothers other otherRecord hother with hnone | ⟨hne, hbefore⟩
  · rw [hnone] at hotherHeld
    cases hotherHeld
  · exact hne (h.holders other worker otherRecord record reservation hbefore hfound
      hotherHeld hheld)

theorem Consistent.free_clear (h : before.Consistent)
    (hfound : before.workers[worker]? = some record)
    (hheld : record.reservation = some reservation) :
    (before.clearReservation worker record).Free reservation := by
  apply h.free_after hfound hheld
  intro other otherRecord hother
  change (before.workers.insert worker _)[other]? = _ at hother
  rw [getElem?_insert] at hother
  split at hother
  · obtain rfl := Option.some.inj hother
    exact Or.inl rfl
  · exact Or.inr ⟨‹_›, hother⟩

theorem Consistent.free_remove (h : before.Consistent)
    (hfound : before.workers[worker]? = some record)
    (hheld : record.reservation = some reservation) :
    (before.removeWorker record.connection worker record).Free reservation := by
  apply h.free_after hfound hheld
  intro other otherRecord hother
  change (before.workers.erase worker)[other]? = _ at hother
  rw [getElem?_erase] at hother
  split at hother
  · cases hother
  · exact Or.inr ⟨‹_›, hother⟩

theorem reservationOf_found (hfound : before.workers[worker]? = some record) :
    before.reservationOf worker = record.reservation := by
  rw [reservationOf, hfound, Option.bind_some]

end Phases

/-! ## One call -/

section Moves

variable {before after : WorkerRegistry} {used : List ReservationId}
  {reservation : ReservationId} {phase : ReservationPhase}

/-- A reservation moves on with the steps that its history gains. -/
def MovesOn (used : List ReservationId) (before after : WorkerRegistry)
    (call : RegistryCall) (result : WorkerRegistryResult) (reservation : ReservationId)
    (phase : ReservationPhase) : Prop :=
  ∃ next, Moves phase (before.steps call result reservation) next ∧
    InPhase (used ++ call.requested.toList) after reservation next

theorem actionSteps_none {call : RegistryCall} (hasked : call.requested = none)
    (hcancels : call.cancels = false) (reservation : ReservationId) :
    actionSteps reservation call = [] := by
  unfold actionSteps
  split
  · cases hasked
  · cases hcancels
  · rfl

/-- A reservation that was never asked for is fresh. -/
theorem InPhase.fresh_of_unused (h : InPhase used before reservation phase)
    (hused : reservation ∉ used) : phase = .fresh ∧ before.Free reservation := by
  cases phase with
  | fresh => exact ⟨rfl, h.2⟩
  | reserved => exact absurd h.1 hused
  | cancelling => exact absurd h.1 hused
  | active => exact absurd h.1 hused
  | ended => exact absurd h.1 hused

/-- A call that is not about the reservation leaves its phase. -/
theorem InPhase.stays (h : InPhase used before reservation phase) {call : RegistryCall}
    {result : WorkerRegistryResult}
    (hsteps : before.steps call result reservation = [])
    (hasked : call.requested ≠ some reservation)
    (hsame : SameHolders before after reservation) :
    MovesOn used before after call result reservation phase := by
  refine ⟨phase, hsteps ▸ .stays phase, h.same hsame ?_⟩
  rw [List.mem_append, Option.mem_toList]
  exact or_iff_left hasked

variable {worker : WorkerId} {record : WorkerRecord}

theorem Consistent.reservation_none (h : before.Consistent)
    (hfound : before.workers[worker]? = some record) (hidle : record.state = .idle) :
    record.reservation = none := by
  have hnone := (h.records worker record hfound).reservation
  rw [hidle] at hnone
  exact Option.isSome_eq_false_iff.mp hnone |> Option.isNone_iff_eq_none.mp

/-- What the loss of a worker says about a reservation. -/
theorem Consistent.lostEvents_steps (h : before.Consistent)
    (hfound : before.workers[worker]? = some record) (reservation : ReservationId) :
    (lostEvents record).flatMap (before.eventSteps reservation) =
      if record.reservation = some reservation then
        match record.state with
        | .reserved => [.failed]
        | .active => [.unavailable]
        | _ => []
      else [] := by
  have hrecord := h.records worker record hfound
  cases hstate : record.state with
  | idle =>
    rw [h.reservation_none hfound hstate, lostEvents, hstate]
    rfl
  | cancelling =>
    simp [lostEvents, hstate]
  | reserved =>
    have hheld := hrecord.reservation
    have hmatch := hrecord.matchId
    rw [hstate] at hheld hmatch
    obtain ⟨held, hheld⟩ := Option.isSome_iff_exists.mp hheld
    obtain ⟨matchId, hmatch⟩ := Option.isSome_iff_exists.mp hmatch
    simp [lostEvents, hstate, hheld, hmatch, eventSteps]
  | active =>
    have hmatch := hrecord.matchId
    rw [hstate] at hmatch
    obtain ⟨matchId, hmatch⟩ := Option.isSome_iff_exists.mp hmatch
    simp [lostEvents, hstate, hmatch, eventSteps, hrecord.key,
      reservationOf_found hfound]

theorem Consistent.lost_movesOn (h : before.Consistent)
    (hfound : before.workers[worker]? = some record) {call : RegistryCall}
    (hasked : call.requested = none) (hcancels : call.cancels = false)
    (hphase : InPhase used before reservation phase) (accepted : Bool)
    (closed : List WorkerConnectionId) :
    MovesOn used before (before.removeWorker record.connection worker record) call
      { accepted, events := lostEvents record, closeConnections := closed }
      reservation phase := by
  have hsteps : before.steps call
      { accepted, events := lostEvents record, closeConnections := closed }
      reservation = (lostEvents record).flatMap (before.eventSteps reservation) := by
    rw [steps, actionSteps_none hasked hcancels, ite_self, List.nil_append]
  rw [h.lostEvents_steps hfound] at hsteps
  by_cases hheld : record.reservation = some reservation
  · obtain ⟨hused, rfl⟩ := h.inPhase_held hfound hheld hphase
    rw [if_pos hheld] at hsteps
    refine ⟨.ended, ?_, List.mem_append_left _ hused, h.free_remove hfound hheld⟩
    rw [hsteps]
    cases hstate : record.state with
    | idle => exact absurd hstate (h.not_idle hfound hheld)
    | reserved => exact .failed
    | cancelling => exact .released
    | active => exact .unavailable
  · rw [if_neg hheld] at hsteps
    apply hphase.stays hsteps
    · rw [hasked]
      exact nofun
    · apply sameHolders_erase rfl
      intro other hother
      obtain rfl := Option.some.inj (hfound.symm.trans hother)
      exact hheld

/-- A holder moves its reservation on and keeps it. -/
theorem Consistent.holder_movesOn (h : before.Consistent)
    (hfound : before.workers[worker]? = some record) {held : ReservationId}
    (hheld : record.reservation = some held)
    (hphase : InPhase used before reservation phase) {call : RegistryCall}
    {result : WorkerRegistryResult} (hasked : call.requested = none)
    (step : ReservationStep)
    (hsteps : before.steps call result reservation =
      if held = reservation then [step] else []) {new : WorkerRecord}
    (hworkers : after.workers = before.workers.insert worker new)
    (hnew : new.reservation = some held) (hstate : new.state ≠ .idle)
    (hmoves : Moves (phaseOf record.state) [step] (phaseOf new.state)) :
    MovesOn used before after call result reservation phase := by
  by_cases heq : held = reservation
  · rw [heq] at hheld hnew
    obtain ⟨hused, rfl⟩ := h.inPhase_held hfound hheld hphase
    have hafter : after.workers[worker]? = some new := by
      rw [hworkers, getElem?_insert, if_pos rfl]
    refine ⟨phaseOf new.state, ?_, inPhase_holder hafter hnew hstate
      (List.mem_append_left _ hused)⟩
    rw [hsteps, if_pos heq]
    exact hmoves
  · rw [if_neg heq] at hsteps
    apply hphase.stays hsteps
    · rw [hasked]
      exact nofun
    · apply sameHolders_insert hworkers
      · intro other hother
        obtain rfl := Option.some.inj (hfound.symm.trans hother)
        rw [hheld]
        exact fun hsome => heq (Option.some.inj hsome)
      · rw [hnew]
        exact fun hsome => heq (Option.some.inj hsome)

/-- A holder lets go of its reservation. -/
theorem Consistent.cleared_movesOn (h : before.Consistent)
    (hfound : before.workers[worker]? = some record) {held : ReservationId}
    (hheld : record.reservation = some held)
    (hphase : InPhase used before reservation phase) {call : RegistryCall}
    {result : WorkerRegistryResult} (hasked : call.requested = none)
    (added : List ReservationStep)
    (hsteps : before.steps call result reservation =
      if held = reservation then added else [])
    (hmoves : Moves (phaseOf record.state) added .ended) :
    MovesOn used before (before.clearReservation worker record) call result reservation
      phase := by
  by_cases heq : held = reservation
  · rw [heq] at hheld
    obtain ⟨hused, rfl⟩ := h.inPhase_held hfound hheld hphase
    refine ⟨.ended, ?_, List.mem_append_left _ hused, h.free_clear hfound hheld⟩
    rw [hsteps, if_pos heq]
    exact hmoves
  · rw [if_neg heq] at hsteps
    apply hphase.stays hsteps
    · rw [hasked]
      exact nofun
    · apply sameHolders_insert rfl
      · intro other hother
        obtain rfl := Option.some.inj (hfound.symm.trans hother)
        rw [hheld]
        exact fun hsome => heq (Option.some.inj hsome)
      · exact nofun

theorem movesOn_change {call : RegistryCall} {result : WorkerRegistryResult}
    (hchange : RegistryChange before call after result) (h : before.Consistent)
    (hfresh : ∀ name, call.requested = some name → name ∉ used)
    (hphase : InPhase used before reservation phase) :
    MovesOn used before after call result reservation phase := by
  cases hchange with
  | unchanged call accepted closed hasked hcancels =>
    apply hphase.stays _ (by rw [hasked]; exact nofun) fun _ _ _ => Iff.rfl
    rw [steps, List.flatMap_nil, List.append_nil]
    split
    · rename_i haccepted
      apply actionSteps_none hasked
      by_contra hcancel
      rw [hcancels (Bool.not_eq_false _ ▸ hcancel)] at haccepted
      cases haccepted
    · rfl
  | refused action now =>
    by_cases heq : action.reservation = reservation
    · subst heq
      obtain ⟨rfl, hfree⟩ := hphase.fresh_of_unused (hfresh _ rfl)
      refine ⟨.ended, ?_, List.mem_append_right _ (List.mem_singleton_self _), hfree⟩
      simpa [steps, eventSteps] using Moves.refused
    · apply hphase.stays _ _ fun _ _ _ => Iff.rfl
      · simp [steps, eventSteps, heq]
      · exact fun hsome => heq (Option.some.inj hsome)
  | registered connection registration hvalid hconnection hworker =>
    refine hphase.stays rfl nofun (sameHolders_insert rfl ?_ nofun)
    intro record hfound
    rw [hworker] at hfound
    cases hfound
  | reserved action now worker record hnonzero hparticipants hfound hidle =>
    by_cases heq : action.reservation = reservation
    · subst heq
      obtain ⟨rfl, -⟩ := hphase.fresh_of_unused (hfresh _ rfl)
      refine ⟨.reserved, by simpa [steps, actionSteps] using Moves.accepted,
        List.mem_append_right _ (List.mem_singleton_self _), worker,
        { record with
          state := .reserved
          reservation := some action.reservation
          matchId := some action.matchId }, ?_, rfl, rfl⟩
      rw [getElem?_insert, if_pos rfl]
    · apply hphase.stays
      · simp [steps, actionSteps, heq]
      · exact fun hsome => heq (Option.some.inj hsome)
      · apply sameHolders_insert rfl
        · intro other hother
          obtain rfl := Option.some.inj (hfound.symm.trans hother)
          rw [h.reservation_none hfound hidle]
          exact nofun
        · exact fun hsome => heq (Option.some.inj hsome)
  | cancelling held matchId now worker record hfound hreserved hheld =>
    refine h.holder_movesOn hfound hheld hphase rfl .cancelled ?_ rfl hheld nofun ?_
    · simp [steps, actionSteps]
    · rw [hreserved]
      exact .cancelled
  | readied held matchId worker record hfound hreserved hheld =>
    refine h.holder_movesOn hfound hheld hphase rfl .ready ?_ rfl hheld nofun ?_
    · simp [steps, actionSteps, eventSteps]
    · rw [hreserved]
      exact .ready
  | rejected held matchId reason worker record hfound hreserved hheld =>
    refine h.cleared_movesOn hfound hheld hphase rfl [.failed] ?_ ?_
    · simp [steps, actionSteps, eventSteps]
    · rw [hreserved]
      exact .failed
  | cancelled held matchId worker record hfound hcancelling hheld =>
    refine h.cleared_movesOn hfound hheld hphase rfl [] ?_ ?_
    · simp [steps, actionSteps]
    · rw [hcancelling]
      exact .released
  | finished finish held worker record hfound hactive hheld =>
    refine h.cleared_movesOn hfound hheld hphase rfl [.finished] ?_ ?_
    · simp [steps, actionSteps, eventSteps, reservationOf_found hfound, hheld]
    · rw [hactive]
      exact .finished
  | lost call accepted closed worker record hfound hasked hcancels =>
    exact h.lost_movesOn hfound hasked hcancels hphase accepted closed

end Moves

/-! ## Runs -/

def step (registry : WorkerRegistry) (call : RegistryCall) : WorkerRegistry :=
  (registry.call call).1

/-- A step that also records the history of every reservation. -/
def recordStep (state : WorkerRegistry × (ReservationId → List ReservationStep))
    (call : RegistryCall) : WorkerRegistry × (ReservationId → List ReservationStep) :=
  (state.1.step call, fun reservation =>
    state.2 reservation ++ state.1.steps call (state.1.call call).2 reservation)

theorem run_recordStep (registry : WorkerRegistry)
    (past : ReservationId → List ReservationStep) (calls : List RegistryCall) :
    Machine.run recordStep (registry, past) calls =
      (Machine.run step registry calls,
        fun reservation => past reservation ++ history registry reservation calls) := by
  induction calls generalizing registry past with
  | nil => simp [history]
  | cons call calls ih =>
    rw [Machine.run_cons, Machine.run_cons, recordStep, ih]
    simp only [history, List.append_assoc, step]

/-- The maps agree, and every reservation has the history of its phase. -/
def Accounted (used : List ReservationId)
    (state : WorkerRegistry × (ReservationId → List ReservationStep)) : Prop :=
  state.1.Consistent ∧ ∀ reservation, ∃ phase,
    InPhase used state.1 reservation phase ∧ Account phase (state.2 reservation)

theorem Accounted.step {used : List ReservationId}
    {state : WorkerRegistry × (ReservationId → List ReservationStep)}
    (h : Accounted used state) {call : RegistryCall}
    (hfresh : ∀ name, call.requested = some name → name ∉ used) :
    Accounted (used ++ call.requested.toList) (recordStep state call) := by
  have hchange := call_changes h.1 call
  constructor
  · apply hchange.consistent h.1
    intro reservation hasked
    obtain ⟨phase, hphase, -⟩ := h.2 reservation
    exact (hphase.fresh_of_unused (hfresh reservation hasked)).2
  · intro reservation
    obtain ⟨phase, hphase, haccount⟩ := h.2 reservation
    obtain ⟨next, hmoves, hnext⟩ := movesOn_change hchange h.1 hfresh hphase
    exact ⟨next, hnext, haccount.moves hmoves⟩

theorem run_accounted {calls : List RegistryCall}
    (hnodup : (calls.filterMap RegistryCall.requested).Nodup) :
    Accounted (calls.filterMap RegistryCall.requested)
      (Machine.run step {} calls, fun reservation => history {} reservation calls) := by
  have hempty : Accounted [] ({}, fun _ => []) :=
    ⟨consistent_empty, fun reservation =>
      ⟨.fresh, ⟨List.not_mem_nil, by simp [Free]⟩, .fresh⟩⟩
  have hrun : Accounted ([] ++ calls.filterMap RegistryCall.requested)
      (Machine.run recordStep ({}, fun _ => []) calls) :=
    Machine.run_fresh (fun used state call hfresh hstate => hstate.step hfresh) hempty
      hnodup
  rw [run_recordStep] at hrun
  exact hrun

/-- While no reservation is asked for twice, the maps agree; an accepted reservation
is told of in the disciplined way, and without a cancel it is never lost. -/
theorem run_disciplined (calls : List RegistryCall)
    (hnodup : (calls.filterMap RegistryCall.requested).Nodup) :
    (Machine.run step {} calls).Consistent ∧
    ∀ reservation, .accepted ∈ history {} reservation calls →
      Disciplined (history {} reservation calls) ∧
      (.cancelled ∉ history {} reservation calls →
        (Machine.run step {} calls).Holds reservation .reserved ∧
          events (history {} reservation calls) = [] ∨
        (Machine.run step {} calls).Holds reservation .active ∧
          events (history {} reservation calls) = [.ready] ∨
        (Machine.run step {} calls).Free reservation ∧
          events (history {} reservation calls) ∈
            [[.failed], [.ready, .finished], [.ready, .unavailable]]) := by
  obtain ⟨hconsistent, hphases⟩ := run_accounted hnodup
  refine ⟨hconsistent, fun reservation haccepted => ?_⟩
  obtain ⟨phase, hphase, haccount⟩ := hphases reservation
  refine ⟨haccount.disciplined, fun hcancelled => ?_⟩
  rcases haccount.not_lost haccepted hcancelled with ⟨rfl, hevents⟩ | ⟨rfl, hevents⟩ |
    ⟨rfl, hevents⟩
  · exact Or.inl ⟨hphase.2, hevents⟩
  · exact Or.inr (Or.inl ⟨hphase.2, hevents⟩)
  · exact Or.inr (Or.inr ⟨hphase.2, hevents⟩)

/-- A worker registers, is reserved and gets ready. -/
def readyCalls : List RegistryCall :=
  [.register ⟨1⟩ {
      worker := ⟨1⟩
      advertisedHost := [0x68]
      gameTcpPort := 1
      gameUdpPort := 2 },
    .execute (.reserve {
      reservation := ⟨1⟩
      room := ⟨1⟩
      matchId := ⟨1⟩
      requester := ⟨1⟩
      issuedAt := 0
      participants := [⟨⟨1⟩, .repeating 0⟩,
        ⟨⟨2⟩, .repeating 1⟩] }) 0,
    .receive ⟨1⟩ (.ready ⟨1⟩ ⟨1⟩)]

theorem run_disciplined_ready :
    (readyCalls.filterMap RegistryCall.requested).Nodup ∧
    .accepted ∈ history {} ⟨1⟩ readyCalls ∧ Disciplined (history {} ⟨1⟩ readyCalls) :=
  have hnodup : (readyCalls.filterMap RegistryCall.requested).Nodup := by decide
  have haccepted : .accepted ∈ history {} ⟨1⟩ readyCalls := by decide +kernel
  ⟨hnodup, haccepted, ((run_disciplined readyCalls hnodup).2 ⟨1⟩ haccepted).1⟩

end WorkerRegistry

end SurvivalArena
