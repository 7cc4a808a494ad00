import SurvivalArena.Framework.OrderedMap
import SurvivalArena.Simulation.MatchRun

/-!
# The order of commands

A tick depends on what each actor submitted in which order, but not on how the
submissions of different actors interleave.
-/

namespace SurvivalArena

open Machine KeyedList

variable {R : Type}

/-- Every actor's commands are the same, in the same order. -/
def SamePerActor (first second : List (MatchCommand R)) : Prop :=
  ∀ actor : ActorId,
    first.filter (fun command => command.actor = actor) =
      second.filter fun command => command.actor = actor

theorem SamePerActor.append {first second : List (MatchCommand R)}
    (h : SamePerActor first second) (later : List (MatchCommand R)) :
    SamePerActor (first ++ later) (second ++ later) := by
  intro actor
  rw [List.filter_append, List.filter_append, h actor]

theorem SamePerActor.prepend {first second : List (MatchCommand R)}
    (h : SamePerActor first second) (earlier : List (MatchCommand R)) :
    SamePerActor (earlier ++ first) (earlier ++ second) := by
  intro actor
  rw [List.filter_append, List.filter_append, h actor]

/-- The commands are the same up to their order. -/
theorem SamePerActor.perm {first second : List (MatchCommand R)}
    (h : SamePerActor first second) : List.Perm first second := by
  classical
  rw [List.perm_iff_count]
  intro command
  have hown (commands : List (MatchCommand R)) :
      (commands.filter fun other => other.actor = command.actor).count command =
        commands.count command :=
    List.count_filter (by simp)
  rw [← hown first, ← hown second, h command.actor]

namespace OfflineMatch

variable [Precision R]

/-! ## Selecting commands -/

/-- The decision about a command, where its check returns. -/
def accepts (game : OfflineMatch R) (command : MatchCommand R) : Bool :=
  (game.validCommand command).toOption.getD false

/-- A command's effect on the selection, where its check returns. -/
def choose (game : OfflineMatch R) (disconnectedActors : List ActorId)
    (selection : CommandSelection R) (command : MatchCommand R) : CommandSelection R :=
  if command.actor ∈ disconnectedActors then selection
  else if game.accepts command then
    { selection with selected := selection.selected.insert command.actor command }
  else { selection with rejected := selection.rejected ++ [command.actor] }

/-- The check of the command throws, if it is made. -/
def Fails (game : OfflineMatch R) (disconnectedActors : List ActorId)
    (command : MatchCommand R) : Prop :=
  command.actor ∉ disconnectedActors ∧ ∃ e, game.validCommand command = .error e

theorem processCommand_choose {game : OfflineMatch R} {disconnectedActors : List ActorId}
    {command : MatchCommand R} (h : ¬game.Fails disconnectedActors command)
    (selection : CommandSelection R) :
    game.processCommand disconnectedActors selection command =
      .ok (game.choose disconnectedActors selection command) := by
  unfold processCommand choose accepts
  by_cases hgone : command.actor ∈ disconnectedActors
  · rw [if_pos hgone, if_pos hgone]
  · rw [if_neg hgone, if_neg hgone]
    cases hvalid : game.validCommand command with
    | error e => exact absurd ⟨hgone, e, hvalid⟩ h
    | ok valid => cases valid <;> rfl

theorem processCommand_fails {game : OfflineMatch R} {disconnectedActors : List ActorId}
    {command : MatchCommand R} (h : game.Fails disconnectedActors command)
    (selection : CommandSelection R) :
    ∃ e, game.processCommand disconnectedActors selection command = .error e := by
  obtain ⟨hconnected, e, he⟩ := h
  refine ⟨e, ?_⟩
  rw [processCommand, if_neg hconnected, he]
  rfl

theorem foldlM_choose {game : OfflineMatch R} {disconnectedActors : List ActorId}
    {commands : List (MatchCommand R)}
    (h : ∀ command ∈ commands, ¬game.Fails disconnectedActors command)
    (selection : CommandSelection R) :
    commands.foldlM (game.processCommand disconnectedActors) selection =
      .ok (commands.foldl (game.choose disconnectedActors) selection) := by
  induction commands generalizing selection with
  | nil => rfl
  | cons command commands ih =>
    rw [List.foldlM_cons, processCommand_choose (h command List.mem_cons_self)]
    exact ih (fun later hlater => h later (List.mem_cons_of_mem command hlater)) _

theorem foldlM_fails {game : OfflineMatch R} {disconnectedActors : List ActorId}
    {commands : List (MatchCommand R)}
    (h : ∃ command ∈ commands, game.Fails disconnectedActors command)
    (selection : CommandSelection R) :
    ∃ e, commands.foldlM (game.processCommand disconnectedActors) selection =
      .error e := by
  induction commands generalizing selection with
  | nil =>
    obtain ⟨command, hcommand, -⟩ := h
    cases hcommand
  | cons command commands ih =>
    rw [List.foldlM_cons]
    by_cases hfirst : game.Fails disconnectedActors command
    · obtain ⟨e, he⟩ := processCommand_fails hfirst selection
      exact ⟨e, by rw [he]; rfl⟩
    · rw [processCommand_choose hfirst]
      obtain ⟨later, hlater, hfails⟩ := h
      rcases List.mem_cons.mp hlater with rfl | hlater
      · exact absurd hfails hfirst
      · exact ih ⟨later, hlater, hfails⟩ _

/-! ## What a selection depends on -/

/-- The same commands are selected, and the rejections differ in their order. -/
structure SameSelection (first second : CommandSelection R) : Prop where
  selected : first.selected = second.selected
  rejected : List.Perm first.rejected second.rejected

/-- An actor's selected command after some more of its commands. -/
def lastAccepted (game : OfflineMatch R) (disconnectedActors : List ActorId)
    (before : Option (MatchCommand R)) (commands : List (MatchCommand R)) :
    Option (MatchCommand R) :=
  commands.foldl (fun last command =>
    if command.actor ∈ disconnectedActors then last
    else if game.accepts command then some command else last) before

/-- The command is answered with a rejection, where its check returns. -/
def rejects (game : OfflineMatch R) (disconnectedActors : List ActorId)
    (command : MatchCommand R) : Bool :=
  decide (command.actor ∉ disconnectedActors) && !game.accepts command

theorem selected_choose (game : OfflineMatch R) (disconnectedActors : List ActorId)
    (commands : List (MatchCommand R)) (selection : CommandSelection R)
    (actor : ActorId) :
    (commands.foldl (game.choose disconnectedActors) selection).selected[actor]? =
      game.lastAccepted disconnectedActors selection.selected[actor]?
        (commands.filter fun command => command.actor = actor) := by
  induction commands generalizing selection with
  | nil => rfl
  | cons command commands ih =>
    rw [List.foldl_cons, ih, List.filter_cons]
    by_cases hactor : command.actor = actor
    · rw [if_pos (decide_eq_true hactor), lastAccepted, lastAccepted, List.foldl_cons]
      congr 1
      unfold choose
      split_ifs with hgone haccepted
      · rfl
      · rw [OrderedMap.getElem?_insert, if_pos hactor.symm]
      · rfl
    · rw [if_neg (by simpa using hactor)]
      congr 1
      unfold choose
      split_ifs with hgone haccepted
      · rfl
      · rw [OrderedMap.getElem?_insert, if_neg (Ne.symm hactor)]
      · rfl

theorem rejected_choose (game : OfflineMatch R) (disconnectedActors : List ActorId)
    (commands : List (MatchCommand R)) (selection : CommandSelection R) :
    (commands.foldl (game.choose disconnectedActors) selection).rejected =
      selection.rejected ++ (commands.filter (game.rejects disconnectedActors)).map
        MatchCommand.actor := by
  induction commands generalizing selection with
  | nil => simp
  | cons command commands ih =>
    rw [List.foldl_cons, ih, List.filter_cons]
    unfold choose rejects
    by_cases hgone : command.actor ∈ disconnectedActors
    · simp [hgone]
    · cases haccepted : game.accepts command <;> simp [hgone]

theorem choose_sameSelection (game : OfflineMatch R) (disconnectedActors : List ActorId)
    {first second : List (MatchCommand R)} (h : SamePerActor first second) :
    SameSelection (first.foldl (game.choose disconnectedActors) {})
      (second.foldl (game.choose disconnectedActors) {}) where
  selected := by
    apply Std.ExtTreeMap.ext_getElem?
    intro actor
    rw [selected_choose, selected_choose, h actor]
  rejected := by
    rw [rejected_choose, rejected_choose]
    exact ((h.perm.filter _).map _).append_left _

/-- Both selections throw, or they select the same. -/
inductive SameChoice : Except Exception (CommandSelection R) →
    Except Exception (CommandSelection R) → Prop
  | thrown (e f : Exception) : SameChoice (.error e) (.error f)
  | chosen {first second : CommandSelection R} (same : SameSelection first second) :
    SameChoice (.ok first) (.ok second)

theorem selectCommands_sameChoice (game : OfflineMatch R)
    (disconnectedActors : List ActorId) {first second : List (MatchCommand R)}
    (h : SamePerActor first second) :
    SameChoice (game.selectCommands disconnectedActors first)
      (game.selectCommands disconnectedActors second) := by
  unfold selectCommands
  by_cases hfails : ∃ command ∈ first, game.Fails disconnectedActors command
  · have hsecond : ∃ command ∈ second, game.Fails disconnectedActors command := by
      obtain ⟨command, hcommand, hfails⟩ := hfails
      exact ⟨command, h.perm.mem_iff.mp hcommand, hfails⟩
    obtain ⟨e, he⟩ := foldlM_fails hfails {}
    obtain ⟨f, hf⟩ := foldlM_fails hsecond {}
    rw [he, hf]
    exact .thrown e f
  · have hfirst : ∀ command ∈ first, ¬game.Fails disconnectedActors command :=
      fun command hcommand hfail => hfails ⟨command, hcommand, hfail⟩
    have hsecond : ∀ command ∈ second, ¬game.Fails disconnectedActors command :=
      fun command hcommand => hfirst command (h.perm.mem_iff.mpr hcommand)
    rw [foldlM_choose hfirst, foldlM_choose hsecond]
    simp only [bind, Except.bind]
    split
    · cases game.buildInternalBotCommands with
      | error e => exact .thrown e e
      | ok botCommands =>
        by_cases hbots : ∃ command ∈ botCommands, game.Fails disconnectedActors command
        · obtain ⟨e, he⟩ := foldlM_fails hbots (first.foldl (game.choose disconnectedActors) {})
          obtain ⟨f, hf⟩ := foldlM_fails hbots (second.foldl (game.choose disconnectedActors) {})
          simp only [he, hf]
          exact .thrown e f
        · have hnone : ∀ command ∈ botCommands, ¬game.Fails disconnectedActors command :=
            fun command hcommand hfail => hbots ⟨command, hcommand, hfail⟩
          simp only [foldlM_choose hnone, ← List.foldl_append]
          exact .chosen (game.choose_sameSelection disconnectedActors
            (h.append botCommands))
    · exact .chosen (game.choose_sameSelection disconnectedActors h)

/-! ## Matches that differ in the order of their queues -/

def requeue (game : OfflineMatch R) (commands : List (MatchCommand R))
    (lifecycle : List MatchLifecycleCommand) : OfflineMatch R :=
  { game with queuedCommands := commands, queuedLifecycleCommands := lifecycle }

/-- The matches are the same but for the order in which commands are queued. -/
inductive Reordered (game : OfflineMatch R) : OfflineMatch R → Prop
  | requeued (commands : List (MatchCommand R)) (lifecycle : List MatchLifecycleCommand)
      (sameCommands : SamePerActor game.queuedCommands commands)
      (sameLifecycle : List.Perm game.queuedLifecycleCommands lifecycle) :
    Reordered game (game.requeue commands lifecycle)

theorem Reordered.refl (game : OfflineMatch R) : Reordered game game :=
  .requeued game.queuedCommands game.queuedLifecycleCommands (fun _ => rfl) (.refl _)

theorem disconnecting_requeue (game : OfflineMatch R) (commands : List (MatchCommand R))
    {lifecycle : List MatchLifecycleCommand}
    (h : List.Perm game.queuedLifecycleCommands lifecycle) :
    (game.requeue commands lifecycle).disconnecting = game.disconnecting := by
  have hsorted := sortByKey_append_congr
    (h.map MatchLifecycleCommand.actor) (fun a _ b _ (hab : id a = id b) => hab) []
  rw [List.append_nil, List.append_nil] at hsorted
  rw [disconnecting, disconnecting, hsorted]
  rfl

theorem started_requeue (game : OfflineMatch R) (commands : List (MatchCommand R))
    {lifecycle : List MatchLifecycleCommand}
    (h : List.Perm game.queuedLifecycleCommands lifecycle) :
    (game.requeue commands lifecycle).started = game.started := by
  rw [started, started, disconnecting_requeue game commands h]
  rfl

/-- The phases do not depend on the order of the opening events. -/
theorem resolve_congr (game : OfflineMatch R) (commands : List (MatchCommand R))
    {first second : List MatchEvent}
    (h : ∀ rest, sortByKey eventSortKey (first ++ rest) =
      sortByKey eventSortKey (second ++ rest)) :
    game.resolve commands first = game.resolve commands second := by
  simp only [resolve, recordEvents, List.append_assoc, h]

theorem openingEvents_sorted (game : OfflineMatch R)
    {first second : CommandSelection R} (h : SameSelection first second)
    (rest : List MatchEvent) :
    sortByKey eventSortKey (game.openingEvents first ++ rest) =
      sortByKey eventSortKey (game.openingEvents second ++ rest) := by
  have hperm : List.Perm (game.openingEvents first) (game.openingEvents second) :=
    (h.rejected.map _).append_left _
  refine sortByKey_append_congr hperm ?_ rest
  have hopening : ∀ event ∈ game.openingEvents first,
      event = { tick := game.started.tick, type := event.type, actor := event.actor } := by
    intro event hevent
    rcases List.mem_append.mp hevent with hevent | hevent <;>
      obtain ⟨actor, -, rfl⟩ := List.mem_map.mp hevent <;> rfl
  intro a ha b hb hkey
  rw [hopening a ha, hopening b hb]
  simp only [eventSortKey, EmbeddingLike.apply_eq_iff_eq, Prod.mk.injEq] at hkey
  have htype : a.type = b.type := by
    have hvalue := hkey.1
    revert hvalue
    cases a.type <;> cases b.type <;> decide
  rw [htype, hkey.2.1]

/-- The phases after the check of the lifecycle commands. -/
def tickSelected (game : OfflineMatch R) : OfflineMatch R × Except Exception Unit :=
  attempt game.started
    (game.started.selectCommands game.disconnecting game.queuedCommands)
    fun selection => game.started.resolve selection.selected.values
      (game.openingEvents selection)

theorem tickSelected_requeue (game : OfflineMatch R) {commands : List (MatchCommand R)}
    {lifecycle : List MatchLifecycleCommand}
    (hcommands : SamePerActor game.queuedCommands commands)
    (hlifecycle : List.Perm game.queuedLifecycleCommands lifecycle) :
    (game.requeue commands lifecycle).tickSelected.1 = game.tickSelected.1 ∧
      (game.requeue commands lifecycle).tickSelected.2.isOk =
        game.tickSelected.2.isOk := by
  have hstarted := started_requeue game commands hlifecycle
  have hgone := disconnecting_requeue game commands hlifecycle
  have hchoice := game.started.selectCommands_sameChoice game.disconnecting hcommands
  have hqueued : (game.requeue commands lifecycle).queuedCommands = commands := rfl
  have hopening : (game.requeue commands lifecycle).openingEvents = game.openingEvents := by
    funext selection
    rw [openingEvents, openingEvents, hstarted, hgone]
  unfold tickSelected
  rw [hstarted, hgone, hqueued, hopening]
  generalize game.started.selectCommands game.disconnecting game.queuedCommands = before
    at hchoice ⊢
  generalize game.started.selectCommands game.disconnecting commands = after at hchoice ⊢
  cases hchoice with
  | thrown e f => exact ⟨rfl, rfl⟩
  | @chosen first second same =>
    have hresolve := game.started.resolve_congr first.selected.values
      (openingEvents_sorted game same)
    rw [attempt_ok, attempt_ok, ← same.selected, hresolve]
    exact ⟨rfl, rfl⟩

theorem stepImpl_tickSelected {game : OfflineMatch R} (hcounted : game.tick ≠ 2 ^ 32 - 1)
    (hpaired : game.actors.length = game.agents.length)
    (hsurvivors : ¬countAliveContenders game.actors ≤ game.disconnecting.length) :
    game.stepImpl = game.tickSelected := by
  unfold stepImpl
  rw [if_neg hcounted, if_neg (not_not.mpr hpaired), if_neg hsurvivors]
  rfl

theorem stepImpl_reordered {first second : OfflineMatch R} (h : Reordered first second) :
    Reordered first.stepImpl.1 second.stepImpl.1 ∧
      second.stepImpl.2.isOk = first.stepImpl.2.isOk := by
  have hsecond := h
  obtain ⟨commands, lifecycle, hcommands, hlifecycle⟩ := h
  have htick : (first.requeue commands lifecycle).tick = first.tick := rfl
  have hactors : (first.requeue commands lifecycle).actors = first.actors := rfl
  have hagents : (first.requeue commands lifecycle).agents = first.agents := rfl
  have hgone := disconnecting_requeue first commands hlifecycle
  by_cases hcounted : first.tick = 2 ^ 32 - 1
  · unfold stepImpl
    rw [htick, if_pos hcounted, if_pos hcounted]
    exact ⟨hsecond, rfl⟩
  · by_cases hpaired : first.actors.length = first.agents.length
    · by_cases hrefused : countAliveContenders first.actors ≤ first.disconnecting.length
      · unfold stepImpl
        rw [htick, hactors, hagents, hgone, if_neg hcounted, if_neg hcounted,
          if_neg (not_not.mpr hpaired), if_neg (not_not.mpr hpaired)]
        dsimp only
        rw [if_pos hrefused, if_pos hrefused]
        exact ⟨.requeued commands [] hcommands (.refl []), rfl⟩
      · have hfirst := stepImpl_tickSelected hcounted hpaired hrefused
        have hrequeued :
            (first.requeue commands lifecycle).stepImpl =
              (first.requeue commands lifecycle).tickSelected := by
          apply stepImpl_tickSelected
          · exact hcounted
          · exact hpaired
          · rw [hgone, hactors]
            exact hrefused
        have hselected := tickSelected_requeue first hcommands hlifecycle
        rw [hfirst, hrequeued, hselected.1, hselected.2]
        exact ⟨.refl _, rfl⟩
    · unfold stepImpl
      rw [htick, hactors, hagents, if_neg hcounted, if_neg hcounted, if_pos hpaired,
        if_pos hpaired]
      exact ⟨hsecond, rfl⟩

/-- Both ticks throw, or both return, and they lead to matches that differ at most in
the order of a queue. -/
theorem step_reordered {first second : OfflineMatch R} (h : Reordered first second) :
    Reordered first.step.1 second.step.1 ∧ second.step.2.isOk = first.step.2.isOk := by
  have hactive : second.isActive = first.isActive := by
    obtain ⟨commands, lifecycle, -, -⟩ := h
    rfl
  unfold step
  rw [hactive]
  split
  · exact ⟨h, rfl⟩
  · exact stepImpl_reordered h

/-! ## Runs -/

theorem submit_reordered {first second : OfflineMatch R} (h : Reordered first second)
    (command : MatchCommand R) :
    Reordered (first.submit command).1 (second.submit command).1 ∧
      (second.submit command).2 = (first.submit command).2 := by
  obtain ⟨commands, lifecycle, hcommands, hlifecycle⟩ := h
  have hactive : (first.requeue commands lifecycle).isActive = first.isActive := rfl
  unfold submit
  rw [hactive]
  split
  · exact ⟨.requeued commands lifecycle hcommands hlifecycle, rfl⟩
  · exact ⟨.requeued (commands ++ [command]) lifecycle (hcommands.append [command])
      hlifecycle, rfl⟩

theorem submitLifecycle_reordered {first second : OfflineMatch R}
    (h : Reordered first second) (command : MatchLifecycleCommand) :
    Reordered (first.submitLifecycle command).1 (second.submitLifecycle command).1 ∧
      (second.submitLifecycle command).2 = (first.submitLifecycle command).2 := by
  obtain ⟨commands, lifecycle, hcommands, hlifecycle⟩ := h
  have hactive : (first.requeue commands lifecycle).isActive = first.isActive := rfl
  unfold submitLifecycle
  rw [hactive]
  split
  · exact ⟨.requeued commands lifecycle hcommands hlifecycle, rfl⟩
  · exact ⟨.requeued commands (lifecycle ++ [command]) hcommands
      (hlifecycle.append_right [command]), rfl⟩

theorem drainEvents_reordered {first second : OfflineMatch R}
    (h : Reordered first second) :
    Reordered first.drainEvents.1 second.drainEvents.1 ∧
      second.drainEvents.2 = first.drainEvents.2 := by
  obtain ⟨commands, lifecycle, hcommands, hlifecycle⟩ := h
  exact ⟨.requeued commands lifecycle hcommands hlifecycle, rfl⟩

end OfflineMatch

/-- What the caller is told: whether the call returned, or the events. -/
def MatchReply.observed : MatchReply → Bool × List MatchEvent
  | .outcome result => (result.isOk, [])
  | .events drained => (true, drained)

namespace OfflineMatch

variable [Precision R]

theorem call_reordered {first second : OfflineMatch R} (h : Reordered first second)
    (call : MatchCall R) :
    Reordered (first.call call).1 (second.call call).1 ∧
      (second.call call).2.observed = (first.call call).2.observed := by
  cases call with
  | submit command =>
    obtain ⟨hafter, hreply⟩ := submit_reordered h command
    exact ⟨hafter, congrArg (fun reply => (MatchReply.outcome reply).observed) hreply⟩
  | submitLifecycle command =>
    obtain ⟨hafter, hreply⟩ := submitLifecycle_reordered h command
    exact ⟨hafter, congrArg (fun reply => (MatchReply.outcome reply).observed) hreply⟩
  | step =>
    obtain ⟨hafter, hreply⟩ := step_reordered h
    exact ⟨hafter, congrArg (fun isOk => (isOk, [])) hreply⟩
  | drainEvents =>
    obtain ⟨hafter, hreply⟩ := drainEvents_reordered h
    exact ⟨hafter, congrArg (fun events => (true, events)) hreply⟩

theorem after_reordered {first second : OfflineMatch R} (h : Reordered first second)
    (calls : List (MatchCall R)) :
    Reordered (after call first calls) (after call second calls) ∧
      (replies call second calls).map MatchReply.observed =
        (replies call first calls).map MatchReply.observed := by
  induction calls generalizing first second with
  | nil => exact ⟨h, rfl⟩
  | cons next calls ih =>
    obtain ⟨hafter, hreply⟩ := call_reordered h next
    obtain ⟨hfinal, hreplies⟩ := ih hafter
    exact ⟨hfinal, List.cons_eq_cons.mpr ⟨hreply, hreplies⟩⟩

end OfflineMatch

/-- A command given to the match between two ticks. -/
inductive Submission (R : Type) where
  | command (command : MatchCommand R)
  | lifecycle (command : MatchLifecycleCommand)

namespace Submission

def call : Submission R → MatchCall R
  | .command submitted => .submit submitted
  | .lifecycle submitted => .submitLifecycle submitted

def command? : Submission R → Option (MatchCommand R)
  | .command submitted => some submitted
  | .lifecycle _ => none

def lifecycle? : Submission R → Option MatchLifecycleCommand
  | .command _ => none
  | .lifecycle submitted => some submitted

end Submission

namespace OfflineMatch

variable [Precision R]

/-- An active match queues the submissions. -/
theorem after_submissions {game : OfflineMatch R} (hactive : game.isActive = true)
    (submissions : List (Submission R)) :
    after call game (submissions.map Submission.call) =
      game.requeue (game.queuedCommands ++ submissions.filterMap Submission.command?)
        (game.queuedLifecycleCommands ++
          submissions.filterMap Submission.lifecycle?) := by
  have hopen : ¬(!game.isActive) = true := by simp [hactive]
  induction submissions generalizing game with
  | nil =>
    simp only [List.map_nil, after_nil, List.filterMap_nil, List.append_nil]
    rfl
  | cons submission submissions ih =>
    rw [List.map_cons, after_cons]
    cases submission with
    | command command =>
      have hqueued : (game.call (.submit command)).1 =
          game.requeue (game.queuedCommands ++ [command])
            game.queuedLifecycleCommands := by
        rw [call, submit, if_neg hopen]
        rfl
      have hlater : (game.requeue (game.queuedCommands ++ [command])
          game.queuedLifecycleCommands).isActive = true := hactive
      rw [Submission.call, hqueued, ih hlater (by simp [hlater])]
      simp [requeue, List.filterMap_cons, Submission.command?, Submission.lifecycle?]
    | lifecycle command =>
      have hqueued : (game.call (.submitLifecycle command)).1 =
          game.requeue game.queuedCommands
            (game.queuedLifecycleCommands ++ [command]) := by
        rw [call, submitLifecycle, if_neg hopen]
        rfl
      have hlater : (game.requeue game.queuedCommands
          (game.queuedLifecycleCommands ++ [command])).isActive = true := hactive
      rw [Submission.call, hqueued, ih hlater (by simp [hlater])]
      simp [requeue, List.filterMap_cons, Submission.command?, Submission.lifecycle?]

/-- A match that is not active refuses the submissions. -/
theorem after_submissions_refused {game : OfflineMatch R} (hactive : ¬game.isActive = true)
    (submissions : List (Submission R)) :
    after call game (submissions.map Submission.call) = game := by
  have hclosed : (!game.isActive) = true := by simp [hactive]
  induction submissions with
  | nil => rfl
  | cons submission submissions ih =>
    have hrefused : (game.call submission.call).1 = game := by
      cases submission with
      | command command => rw [Submission.call, OfflineMatch.call, submit, if_pos hclosed]
      | lifecycle command =>
        rw [Submission.call, OfflineMatch.call, submitLifecycle, if_pos hclosed]
    rw [List.map_cons, after_cons, hrefused]
    exact ih

theorem submissions_reordered (game : OfflineMatch R) {first second : List (Submission R)}
    (hcommands : SamePerActor (first.filterMap Submission.command?)
      (second.filterMap Submission.command?))
    (hlifecycle : List.Perm (first.filterMap Submission.lifecycle?)
      (second.filterMap Submission.lifecycle?)) :
    Reordered (after call game (first.map Submission.call))
      (after call game (second.map Submission.call)) := by
  by_cases hactive : game.isActive = true
  · rw [after_submissions hactive, after_submissions hactive]
    exact Reordered.requeued _ _ (hcommands.prepend game.queuedCommands)
      (hlifecycle.append_left game.queuedLifecycleCommands)
  · rw [after_submissions_refused hactive, after_submissions_refused hactive]
    exact .refl game

theorem Reordered.observations {first second : OfflineMatch R}
    (h : Reordered first second) :
    second.snapshot = first.snapshot ∧ second.events = first.events ∧
      second.eventChecksum = first.eventChecksum := by
  obtain ⟨commands, lifecycle, -, -⟩ := h
  exact ⟨rfl, rfl, rfl⟩

/-- Submissions that keep every actor's own order lead to the same tick, and to the
same match at all later ticks. -/
theorem submissions_order_irrelevant (game : OfflineMatch R)
    (first second : List (Submission R))
    (hcommands : SamePerActor (first.filterMap Submission.command?)
      (second.filterMap Submission.command?))
    (hlifecycle : List.Perm (first.filterMap Submission.lifecycle?)
      (second.filterMap Submission.lifecycle?)) (later : List (MatchCall R)) :
    let submittedFirst := after call game (first.map Submission.call)
    let submittedSecond := after call game (second.map Submission.call)
    (after call submittedSecond later).snapshot =
        (after call submittedFirst later).snapshot ∧
      (after call submittedSecond later).events =
        (after call submittedFirst later).events ∧
      (after call submittedSecond later).eventChecksum =
        (after call submittedFirst later).eventChecksum ∧
      (replies call submittedSecond later).map MatchReply.observed =
        (replies call submittedFirst later).map MatchReply.observed := by
  intro submittedFirst submittedSecond
  obtain ⟨hafter, hreplies⟩ :=
    after_reordered (submissions_reordered game hcommands hlifecycle) later
  obtain ⟨hsnapshot, hevents, hchecksum⟩ := hafter.observations
  exact ⟨hsnapshot, hevents, hchecksum, hreplies⟩

/-- The rule for two contenders that attack each other, where the second also leaves
twice over. -/
theorem submissions_order_irrelevant_duel :
    ∃ started, startedMatch duelMesh duelConfig = .ok started ∧
      let attack (attacker target : ActorId) : Submission Float32 :=
        .command { actor := attacker, attackTarget := some target }
      let leave : Submission Float32 := .lifecycle { actor := 1 }
      let first := [attack 0 1, attack 1 0, leave, leave]
      let second := [leave, attack 1 0, leave, attack 0 1]
      (after call (after call started (second.map Submission.call)) [.step]).snapshot =
        (after call (after call started (first.map Submission.call)) [.step]).snapshot := by
  have hstarts : (startedMatch duelMesh duelConfig).toOption.any (fun _ => true) = true := by
    decide +kernel
  obtain ⟨started, hstarted, -⟩ := except_any hstarts
  refine ⟨started, hstarted, ?_⟩
  intro attack leave first second
  refine (submissions_order_irrelevant started first second ?_ (.refl _) [.step]).1
  intro actor
  have hdistinct : ¬((0 : ActorId) = actor ∧ (1 : ActorId) = actor) := by
    rintro ⟨rfl, hone⟩
    cases hone
  by_cases hzero : (0 : ActorId) = actor
  · have hone : ¬(1 : ActorId) = actor := fun hone => hdistinct ⟨hzero, hone⟩
    simp [first, second, attack, leave, List.filterMap_cons, Submission.command?, hzero,
      hone]
  · by_cases hone : (1 : ActorId) = actor <;>
      simp [first, second, attack, leave, List.filterMap_cons, Submission.command?,
        hzero, hone]

end OfflineMatch

end SurvivalArena
