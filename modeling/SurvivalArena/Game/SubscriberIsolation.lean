import SurvivalArena.Game.StateMachines

/-!
# Isolation of subscribers

The run of a population of machines beside the run in which one of them never existed.
The deliveries to the others are the same as long as nobody else is subscribed to the types
that the one unsubscribes when it is destroyed.
-/

namespace SurvivalArena

open Machine

variable {R : Type}

/-- The machine whose function makes a call. -/
def MachineCall.issuer : MachineCall → Option MachineId
  | .construct machine _ _ => some machine
  | .requestStateChange machine _ => some machine
  | .triggerStateChanged machine _ _ => some machine
  | .update machine => some machine
  | .processEvents => none
  | .onDestroy machine => some machine
  | .destructor machine => some machine

def MachineCall.destroys (machine : MachineId) (call : MachineCall) : Prop :=
  call = .onDestroy machine ∨ call = .destructor machine

namespace MachineWorld

/-- The run of the others alone. -/
def without (machine : MachineId) (calls : List MachineCall) : List MachineCall :=
  calls.filter fun call => call.issuer ≠ some machine

/-- A delivery to another machine of what another machine issued. -/
def foreign (machine : MachineId) (delivery : MachineId × EventData StateEvent) : Bool :=
  delivery.1 ≠ machine && delivery.2.payload.issuer ≠ machine

/-- The deliveries to a machine. -/
def deliveriesTo (machine : MachineId) (world : MachineWorld R) :
    List (MachineId × EventData StateEvent) :=
  world.deliveries.filter fun delivery => delivery.1 = machine

/-- The others receive what they would without the machine, and the machine receives
nothing once it is destroyed. -/
def Isolated (machine : MachineId) (calls : List MachineCall) : Prop :=
  (run call ({} : MachineWorld R) calls).deliveries.filter (foreign machine) =
      (run call ({} : MachineWorld R) (without machine calls)).deliveries ∧
    ∀ before destruction later, calls = before ++ destruction :: later →
      destruction.destroys machine →
      (∀ kind gameObject, .construct machine kind gameObject ∉ later) →
      deliveriesTo machine (run call ({} : MachineWorld R) calls) =
        deliveriesTo machine (run call ({} : MachineWorld R) before)

/-- Nobody but the machine is subscribed to what its destruction unsubscribes. -/
def Spares (machine : MachineId) (world : MachineWorld R) (call : MachineCall) : Prop :=
  call.destroys machine → ∀ state, world.machines machine = some state →
    ∀ type ∈ state.kind.subscriptions, ∀ subscriber ∈ world.manager.eventDelegates type,
      subscriber = machine

/-! ## Subscriptions -/

theorem foldl_unsubscribeAll (types : List EventType)
    (manager : EventManager MachineId StateEvent R) :
    types.foldl EventManager.unsubscribeAll manager =
      { manager with
        eventDelegates := fun type =>
          if type ∈ types then [] else manager.eventDelegates type } := by
  induction types generalizing manager with
  | nil => simp
  | cons first types ih =>
    rw [List.foldl_cons, ih, EventManager.unsubscribeAll]
    congr 1
    funext type
    by_cases hfirst : type = first <;> simp [hfirst]

theorem foldl_subscribe {types : List EventType} (hnodup : types.Nodup)
    (machine : MachineId) (manager : EventManager MachineId StateEvent R) :
    types.foldl (fun manager type => manager.subscribe type machine) manager =
      { manager with
        eventDelegates := fun type =>
          if type ∈ types then manager.eventDelegates type ++ [machine]
          else manager.eventDelegates type } := by
  induction types generalizing manager with
  | nil => simp
  | cons first types ih =>
    obtain ⟨hfresh, hrest⟩ := List.nodup_cons.mp hnodup
    rw [List.foldl_cons, ih hrest, EventManager.subscribe]
    congr 1
    funext type
    by_cases hfirst : type = first
    · rw [hfirst, if_neg hfresh]
      simp
    · simp [hfirst]

theorem subscriptions_nodup (kind : MachineKind) : kind.subscriptions.Nodup := by
  cases kind <;> decide

theorem construct_manager (world : MachineWorld R) (machine : MachineId)
    (kind : MachineKind) (gameObject : GameObjectId) :
    (world.construct machine kind gameObject).manager =
      { world.manager with
        eventDelegates := fun type =>
          if type ∈ kind.subscriptions then world.manager.eventDelegates type ++ [machine]
          else world.manager.eventDelegates type } :=
  foldl_subscribe (subscriptions_nodup kind) machine world.manager

theorem unsubscribe_manager (world : MachineWorld R) (kind : MachineKind) :
    (world.unsubscribe kind).manager =
      { world.manager with
        eventDelegates := fun type =>
          if type ∈ kind.subscriptions then [] else world.manager.eventDelegates type } :=
  foldl_unsubscribeAll kind.subscriptions world.manager

theorem construct_identity (world : MachineWorld R) (machine subscriber : MachineId)
    (kind : MachineKind) (gameObject : GameObjectId) :
    (world.construct machine kind gameObject).identity subscriber =
      if subscriber = machine then some (kind, gameObject)
      else world.identity subscriber := by
  unfold identity construct
  dsimp only
  split <;> rfl

/-! ## The two runs -/

/-- The second world is the first without one of the machines. -/
structure Without (machine : MachineId) (world other : MachineWorld R) : Prop where
  delegates : ∀ type, other.manager.eventDelegates type =
    (world.manager.eventDelegates type).filter fun subscriber => subscriber ≠ machine
  queue : other.manager.eventQueue =
    world.manager.eventQueue.filter fun eventData => eventData.payload.issuer ≠ machine
  deliveries : other.deliveries = world.deliveries.filter (foreign machine)
  identity : ∀ subscriber, subscriber ≠ machine →
    other.identity subscriber = world.identity subscriber

/-- What an event of another machine triggers. -/
theorem Without.triggerEvent {machine : MachineId} {world other : MachineWorld R}
    (h : Without machine world other) {eventData : EventData StateEvent}
    (hissuer : eventData.payload.issuer ≠ machine) :
    other.manager.triggerEvent eventData =
      (world.manager.triggerEvent eventData).filter (foreign machine) := by
  rw [EventManager.triggerEvent, EventManager.triggerEvent, h.delegates, List.filter_map]
  congr 1
  refine List.filter_congr fun subscriber _ => ?_
  simp [foreign, hissuer]

/-- What an event of the machine triggers is not foreign to it. -/
theorem triggerEvent_own (machine : MachineId) (world : MachineWorld R)
    (eventData : EventData StateEvent) (hissuer : eventData.payload.issuer = machine) :
    (world.manager.triggerEvent eventData).filter (foreign machine) = [] := by
  refine List.filter_eq_nil_iff.mpr fun delivery hdelivery => ?_
  obtain ⟨subscriber, -, rfl⟩ := List.mem_map.mp hdelivery
  simp [foreign, hissuer]

theorem Without.flatMap_triggerEvent {machine : MachineId} {world other : MachineWorld R}
    (h : Without machine world other) (events : List (EventData StateEvent)) :
    (events.filter fun eventData => eventData.payload.issuer ≠ machine).flatMap
        other.manager.triggerEvent =
      (events.flatMap world.manager.triggerEvent).filter (foreign machine) := by
  induction events with
  | nil => rfl
  | cons eventData events ih =>
    rw [List.flatMap_cons, List.filter_append, ← ih, List.filter_cons]
    by_cases hissuer : eventData.payload.issuer = machine
    · rw [if_neg (by simp [hissuer]), triggerEvent_own machine world eventData hissuer,
        List.nil_append]
    · rw [if_pos (by simp [hissuer]), List.flatMap_cons, h.triggerEvent hissuer]

theorem Without.processEvents {machine : MachineId} {world other : MachineWorld R}
    (h : Without machine world other) :
    Without machine world.processEvents other.processEvents where
  delegates type := by
    rw [processEvents_manager, processEvents_manager]
    exact h.delegates type
  queue := by
    rw [processEvents_manager, processEvents_manager]
    rfl
  deliveries := by
    rw [processEvents_deliveries, processEvents_deliveries, h.deliveries, h.queue,
      h.flatMap_triggerEvent, List.filter_append]
  identity subscriber hsubscriber := by
    rw [processEvents_identity, processEvents_identity]
    exact h.identity subscriber hsubscriber

theorem Without.construct {machine subscriber : MachineId} {world other : MachineWorld R}
    (h : Without machine world other) (hsubscriber : subscriber ≠ machine)
    (kind : MachineKind) (gameObject : GameObjectId) :
    Without machine (world.construct subscriber kind gameObject)
      (other.construct subscriber kind gameObject) where
  delegates type := by
    rw [construct_manager, construct_manager]
    dsimp only
    split
    · rw [h.delegates, List.filter_append, List.filter_cons, List.filter_nil]
      simp [hsubscriber]
    · exact h.delegates type
  queue := by
    rw [construct_manager, construct_manager]
    exact h.queue
  deliveries := h.deliveries
  identity subscriber' hsubscriber' := by
    rw [construct_identity, construct_identity, h.identity subscriber' hsubscriber']

theorem Without.unsubscribe {machine : MachineId} {world other : MachineWorld R}
    (h : Without machine world other) (kind : MachineKind) :
    Without machine (world.unsubscribe kind) (other.unsubscribe kind) where
  delegates type := by
    rw [unsubscribe_manager, unsubscribe_manager]
    dsimp only
    split
    · rfl
    · exact h.delegates type
  queue := by
    rw [unsubscribe_manager, unsubscribe_manager]
    exact h.queue
  deliveries := h.deliveries
  identity := h.identity

theorem remove_identity (world : MachineWorld R) (machine subscriber : MachineId) :
    (world.remove machine).identity subscriber =
      if subscriber = machine then none else world.identity subscriber := by
  unfold identity remove
  dsimp only
  split <;> rfl

theorem Without.remove {machine : MachineId} {world other : MachineWorld R}
    (h : Without machine world other) (removed : MachineId) :
    Without machine (world.remove removed) (other.remove removed) where
  delegates := h.delegates
  queue := h.queue
  deliveries := h.deliveries
  identity subscriber hsubscriber := by
    rw [remove_identity, remove_identity, h.identity subscriber hsubscriber]

theorem Without.modify {machine : MachineId} {world other : MachineWorld R}
    (h : Without machine world other) {change : StateMachine → StateMachine}
    (hchange : ∀ state, (change state).kind = state.kind ∧
      (change state).gameObject = state.gameObject) (modified : MachineId) :
    Without machine (world.modify modified change) (other.modify modified change) where
  delegates := h.delegates
  queue := h.queue
  deliveries := h.deliveries
  identity subscriber hsubscriber := by
    rw [modify_identity hchange, modify_identity hchange, h.identity subscriber hsubscriber]

/-- A machine other than the one apart exists in both worlds or in neither. -/
theorem Without.machines {machine subscriber : MachineId} {world other : MachineWorld R}
    (h : Without machine world other) (hsubscriber : subscriber ≠ machine) :
    world.machines subscriber = none ∧ other.machines subscriber = none ∨
      ∃ state state', world.machines subscriber = some state ∧
        other.machines subscriber = some state' ∧ state'.kind = state.kind ∧
        state'.gameObject = state.gameObject := by
  have hidentity := h.identity subscriber hsubscriber
  unfold MachineWorld.identity at hidentity
  cases hstate : world.machines subscriber with
  | none =>
    rw [hstate] at hidentity
    exact .inl ⟨rfl, Option.map_eq_none_iff.mp hidentity⟩
  | some state =>
    rw [hstate] at hidentity
    obtain ⟨state', hstate', hsame⟩ := Option.map_eq_some_iff.mp hidentity
    obtain ⟨hkind, hobject⟩ := Prod.mk.inj hsame
    exact .inr ⟨state, state', rfl, hstate', hkind, hobject⟩

/-- A call of another machine is made in both worlds. -/
theorem Without.after_call {machine : MachineId} {world other : MachineWorld R}
    (h : Without machine world other) {call : MachineCall}
    (hissuer : call.issuer ≠ some machine) :
    Without machine (world.call call) (other.call call) := by
  cases call with
  | construct subscriber kind gameObject =>
    have hsubscriber : subscriber ≠ machine := fun hsame => hissuer (congrArg some hsame)
    dsimp only [MachineWorld.call]
    rcases h.machines hsubscriber with ⟨hworld, hother⟩ | ⟨_, _, hworld, hother, -, -⟩
    · rw [hworld, hother]
      exact h.construct hsubscriber kind gameObject
    · rw [hworld, hother]
      exact h
  | requestStateChange subscriber newState =>
    have hsubscriber : subscriber ≠ machine := fun hsame => hissuer (congrArg some hsame)
    dsimp only [MachineWorld.call]
    rcases h.machines hsubscriber with
      ⟨hworld, hother⟩ | ⟨state, state', hworld, hother, hkind, hobject⟩
    · rw [hworld, hother]
      exact h
    · rw [hworld, hother]
      dsimp only [Option.elim_some]
      refine ⟨h.delegates, ?_, h.deliveries, h.identity⟩
      rw [MachineWorld.requestStateChange, MachineWorld.requestStateChange, hkind, hobject]
      unfold EventManager.queueEvent
      dsimp only
      rw [h.queue, List.filter_append, List.filter_cons, List.filter_nil]
      simp [hsubscriber]
  | triggerStateChanged subscriber fromState toState =>
    have hsubscriber : subscriber ≠ machine := fun hsame => hissuer (congrArg some hsame)
    dsimp only [MachineWorld.call]
    rcases h.machines hsubscriber with
      ⟨hworld, hother⟩ | ⟨state, state', hworld, hother, hkind, hobject⟩
    · rw [hworld, hother]
      exact h
    · rw [hworld, hother]
      dsimp only [Option.elim_some]
      rw [hkind, hobject]
      refine ⟨?_, ?_, ?_, ?_⟩
      · intro type
        rw [triggerEvent_manager, triggerEvent_manager]
        exact h.delegates type
      · rw [triggerEvent_manager, triggerEvent_manager]
        exact h.queue
      · rw [triggerEvent_deliveries, triggerEvent_deliveries, h.deliveries,
          List.filter_append, h.triggerEvent hsubscriber]
      · intro subscriber' hsubscriber'
        unfold MachineWorld.triggerEvent
        rw [foldl_deliver_identity, foldl_deliver_identity]
        exact h.identity subscriber' hsubscriber'
  | update subscriber => exact h.modify StateMachine.takeStateChanges_keeps subscriber
  | processEvents => exact h.processEvents
  | onDestroy subscriber =>
    have hsubscriber : subscriber ≠ machine := fun hsame => hissuer (congrArg some hsame)
    dsimp only [MachineWorld.call]
    rcases h.machines hsubscriber with
      ⟨hworld, hother⟩ | ⟨state, state', hworld, hother, hkind, -⟩
    · rw [hworld, hother]
      exact h
    · rw [hworld, hother]
      dsimp only [Option.elim_some]
      rw [hkind]
      exact h.unsubscribe state.kind
  | destructor subscriber =>
    have hsubscriber : subscriber ≠ machine := fun hsame => hissuer (congrArg some hsame)
    dsimp only [MachineWorld.call]
    rcases h.machines hsubscriber with
      ⟨hworld, hother⟩ | ⟨state, state', hworld, hother, hkind, -⟩
    · rw [hworld, hother]
      exact h
    · rw [hworld, hother]
      dsimp only [Option.elim_some]
      rw [hkind]
      exact (h.unsubscribe state.kind).remove subscriber

/-- A destruction of the machine that spares the others. -/
theorem Without.unsubscribe_own {machine : MachineId} {world other : MachineWorld R}
    (h : Without machine world other) {kind : MachineKind}
    (hspares : ∀ type ∈ kind.subscriptions,
      ∀ subscriber ∈ world.manager.eventDelegates type, subscriber = machine) :
    Without machine (world.unsubscribe kind) other where
  delegates type := by
    rw [unsubscribe_manager, h.delegates]
    dsimp only
    split
    · rename_i hmem
      refine List.filter_eq_nil_iff.mpr fun subscriber hsubscriber => ?_
      simp [hspares type hmem subscriber hsubscriber]
    · rfl
  queue := by
    rw [unsubscribe_manager]
    exact h.queue
  deliveries := h.deliveries
  identity := h.identity

/-- A call of the machine itself is made in the first world only. -/
theorem Without.after_call_own {machine : MachineId} {world other : MachineWorld R}
    (h : Without machine world other) {call : MachineCall}
    (hissuer : call.issuer = some machine) (hspares : Spares machine world call) :
    Without machine (world.call call) other := by
  cases call with
  | construct subscriber kind gameObject =>
    cases hissuer
    dsimp only [MachineWorld.call]
    split
    · exact h
    · refine ⟨?_, ?_, h.deliveries, ?_⟩
      · intro type
        rw [construct_manager, h.delegates]
        dsimp only
        split
        · rw [List.filter_append, List.filter_cons, List.filter_nil]
          simp
        · rfl
      · rw [construct_manager]
        exact h.queue
      · intro subscriber hsubscriber
        rw [h.identity subscriber hsubscriber, construct_identity, if_neg hsubscriber]
  | requestStateChange subscriber newState =>
    cases hissuer
    dsimp only [MachineWorld.call]
    cases world.machines machine with
    | none => exact h
    | some state =>
      refine ⟨h.delegates, ?_, h.deliveries, h.identity⟩
      dsimp only [Option.elim_some, MachineWorld.requestStateChange,
        EventManager.queueEvent]
      rw [h.queue, List.filter_append, List.filter_cons, List.filter_nil]
      simp
  | triggerStateChanged subscriber fromState toState =>
    cases hissuer
    dsimp only [MachineWorld.call]
    cases world.machines machine with
    | none => exact h
    | some state =>
      dsimp only [Option.elim_some]
      refine ⟨?_, ?_, ?_, ?_⟩
      · intro type
        rw [triggerEvent_manager]
        exact h.delegates type
      · rw [triggerEvent_manager]
        exact h.queue
      · have hown := triggerEvent_own machine world {
          type := state.kind.changedType
          payload := {
            issuer := machine
            content := .changed state.gameObject fromState toState } } rfl
        rw [triggerEvent_deliveries, List.filter_append, hown, List.append_nil]
        exact h.deliveries
      · intro subscriber hsubscriber
        unfold MachineWorld.triggerEvent
        rw [foldl_deliver_identity]
        exact h.identity subscriber hsubscriber
  | update subscriber =>
    cases hissuer
    refine ⟨h.delegates, h.queue, h.deliveries, fun subscriber hsubscriber => ?_⟩
    rw [h.identity subscriber hsubscriber, MachineWorld.call,
      modify_identity StateMachine.takeStateChanges_keeps]
  | processEvents => cases hissuer
  | onDestroy subscriber =>
    cases hissuer
    dsimp only [MachineWorld.call]
    cases hstate : world.machines machine with
    | none => exact h
    | some state => exact h.unsubscribe_own (hspares (.inl rfl) state hstate)
  | destructor subscriber =>
    cases hissuer
    dsimp only [MachineWorld.call]
    cases hstate : world.machines machine with
    | none => exact h
    | some state =>
      have hunsubscribed := h.unsubscribe_own (hspares (.inr rfl) state hstate)
      refine ⟨hunsubscribed.delegates, hunsubscribed.queue, h.deliveries, ?_⟩
      intro subscriber hsubscriber
      rw [h.identity subscriber hsubscriber]
      dsimp only [Option.elim_some]
      rw [remove_identity, if_neg hsubscriber]
      rfl

theorem Without.after_run {machine : MachineId} {calls : List MachineCall}
    {world other : MachineWorld R} (h : Without machine world other)
    (hspares : Meets call (Spares machine) world calls) :
    Without machine (run call world calls) (run call other (without machine calls)) := by
  induction calls generalizing world other with
  | nil => exact h
  | cons call calls ih =>
    obtain ⟨hspare, hspares⟩ := hspares
    rw [MachineWorld.without, List.filter_cons, run_cons]
    by_cases hissuer : call.issuer = some machine
    · rw [if_neg (by simp [hissuer])]
      exact ih (h.after_call_own hissuer hspare) hspares
    · rw [if_pos (by simp [hissuer]), run_cons]
      exact ih (h.after_call hissuer) hspares

/-! ## Destroyed machines -/

/-- A machine is subscribed to the types of its kind at most. -/
def Enrolled (world : MachineWorld R) : Prop :=
  ∀ type machine, machine ∈ world.manager.eventDelegates type →
    ∃ state, world.machines machine = some state ∧ type ∈ state.kind.subscriptions

theorem Enrolled.of_identity {world world' : MachineWorld R} (h : Enrolled world)
    (hdelegates : ∀ type machine, machine ∈ world'.manager.eventDelegates type →
      machine ∈ world.manager.eventDelegates type)
    (hidentity : ∀ machine, world'.identity machine = world.identity machine) :
    Enrolled world' := by
  intro type machine hmachine
  obtain ⟨state, hstate, htype⟩ := h type machine (hdelegates type machine hmachine)
  have hsame := hidentity machine
  unfold identity at hsame
  rw [hstate] at hsame
  obtain ⟨state', hstate', heq⟩ := Option.map_eq_some_iff.mp hsame
  exact ⟨state', hstate', (Prod.mk.inj heq).1 ▸ htype⟩

theorem unsubscribe_delegates {world : MachineWorld R} {kind : MachineKind}
    {type : EventType} {machine : MachineId}
    (h : machine ∈ (world.unsubscribe kind).manager.eventDelegates type) :
    machine ∈ world.manager.eventDelegates type ∧ type ∉ kind.subscriptions := by
  rw [unsubscribe_manager] at h
  dsimp only at h
  split at h
  · cases h
  · rename_i hother
    exact ⟨h, hother⟩

/-- After the destruction of a machine nobody calls it. -/
theorem Enrolled.unsubscribe_own {world : MachineWorld R} (h : Enrolled world)
    {machine : MachineId} {state : StateMachine}
    (hstate : world.machines machine = some state) (type : EventType) :
    machine ∉ (world.unsubscribe state.kind).manager.eventDelegates type := by
  intro hmachine
  obtain ⟨hmember, hother⟩ := unsubscribe_delegates hmachine
  obtain ⟨state', hstate', htype⟩ := h type machine hmember
  cases hstate.symm.trans hstate'
  exact hother htype

theorem Enrolled.after_call {world : MachineWorld R} (h : Enrolled world) (call : MachineCall) :
    Enrolled (world.call call) := by
  cases call with
  | construct machine kind gameObject =>
    dsimp only [MachineWorld.call]
    split
    · exact h
    · rename_i hnone
      intro type subscriber hsubscriber
      rw [construct_manager] at hsubscriber
      dsimp only at hsubscriber
      by_cases hsame : subscriber = machine
      · cases hsame
        refine ⟨{ kind, gameObject }, by simp [MachineWorld.construct], ?_⟩
        by_contra hother
        rw [if_neg hother] at hsubscriber
        obtain ⟨state, hstate, -⟩ := h type machine hsubscriber
        exact hnone (by rw [hstate]; rfl)
      · have hmember : subscriber ∈ world.manager.eventDelegates type := by
          split at hsubscriber
          · rcases List.mem_append.mp hsubscriber with hold | hnew
            · exact hold
            · exact absurd (List.mem_singleton.mp hnew) hsame
          · exact hsubscriber
        obtain ⟨state, hstate, htype⟩ := h type subscriber hmember
        exact ⟨state, by simp [MachineWorld.construct, hsame, hstate], htype⟩
  | requestStateChange machine newState =>
    dsimp only [MachineWorld.call]
    cases world.machines machine with
    | none => exact h
    | some state => exact h
  | triggerStateChanged machine fromState toState =>
    dsimp only [MachineWorld.call]
    cases world.machines machine with
    | none => exact h
    | some state =>
      refine h.of_identity (fun type subscriber hsubscriber => ?_) fun subscriber => ?_
      · dsimp only [Option.elim_some] at hsubscriber
        rwa [triggerEvent_manager] at hsubscriber
      · exact foldl_deliver_identity _ world subscriber
  | update machine =>
    exact h.of_identity (fun _ _ hsubscriber => hsubscriber)
      fun subscriber =>
        modify_identity StateMachine.takeStateChanges_keeps world machine subscriber
  | processEvents =>
    refine h.of_identity (fun type subscriber hsubscriber => ?_)
      fun subscriber => processEvents_identity world subscriber
    rw [MachineWorld.call, processEvents_manager] at hsubscriber
    exact hsubscriber
  | onDestroy machine =>
    dsimp only [MachineWorld.call]
    cases world.machines machine with
    | none => exact h
    | some state =>
      exact h.of_identity (fun _ _ hsubscriber => (unsubscribe_delegates hsubscriber).1)
        fun _ => rfl
  | destructor machine =>
    dsimp only [MachineWorld.call]
    cases hstate : world.machines machine with
    | none => exact h
    | some state =>
      intro type subscriber hsubscriber
      have hother : subscriber ≠ machine := by
        rintro rfl
        exact h.unsubscribe_own hstate type hsubscriber
      obtain ⟨state', hstate', htype⟩ := h type subscriber (unsubscribe_delegates hsubscriber).1
      refine ⟨state', ?_, htype⟩
      simp [MachineWorld.unsubscribe, MachineWorld.remove, hother, hstate']

theorem enrolled_run (calls : List MachineCall) :
    Enrolled (run call ({} : MachineWorld R) calls) := by
  have hstep : ∀ (world : MachineWorld R) event, True → Enrolled world →
      Enrolled (world.call event) :=
    fun world event _ h => h.after_call event
  have hstart : Enrolled ({} : MachineWorld R) := by
    intro type machine hmachine
    cases hmachine
  exact run_invariant hstep hstart fun _ _ => trivial

/-- Nobody calls the machine. -/
def Silenced (machine : MachineId) (world : MachineWorld R) : Prop :=
  ∀ type, machine ∉ world.manager.eventDelegates type

theorem Silenced.triggerEvent {machine : MachineId} {world : MachineWorld R}
    (h : Silenced machine world) (eventData : EventData StateEvent) :
    (world.manager.triggerEvent eventData).filter (fun delivery => delivery.1 = machine) =
      [] := by
  refine List.filter_eq_nil_iff.mpr fun delivery hdelivery => ?_
  obtain ⟨subscriber, hsubscriber, rfl⟩ := List.mem_map.mp hdelivery
  rw [decide_eq_true_iff]
  rintro rfl
  exact h eventData.type hsubscriber

theorem Silenced.after_call {machine : MachineId} {world : MachineWorld R}
    (h : Silenced machine world) {call : MachineCall}
    (hcall : ∀ kind gameObject, call ≠ .construct machine kind gameObject) :
    Silenced machine (world.call call) ∧
      deliveriesTo machine (world.call call) = deliveriesTo machine world := by
  cases call with
  | construct subscriber kind gameObject =>
    dsimp only [MachineWorld.call]
    split
    · exact ⟨h, rfl⟩
    · refine ⟨fun type => ?_, rfl⟩
      rw [construct_manager]
      have hother : machine ≠ subscriber := fun hsame =>
        hcall kind gameObject (hsame ▸ rfl)
      dsimp only
      split
      · simp [h type, hother]
      · exact h type
  | requestStateChange subscriber newState =>
    dsimp only [MachineWorld.call]
    cases world.machines subscriber with
    | none => exact ⟨h, rfl⟩
    | some state => exact ⟨h, rfl⟩
  | triggerStateChanged subscriber fromState toState =>
    dsimp only [MachineWorld.call]
    cases world.machines subscriber with
    | none => exact ⟨h, rfl⟩
    | some state =>
      refine ⟨fun type => ?_, ?_⟩
      · dsimp only [Option.elim_some]
        rw [triggerEvent_manager]
        exact h type
      · dsimp only [Option.elim_some]
        rw [deliveriesTo, triggerEvent_deliveries, List.filter_append, h.triggerEvent,
          List.append_nil]
        rfl
  | update subscriber => exact ⟨h, rfl⟩
  | processEvents =>
    refine ⟨fun type => ?_, ?_⟩
    · rw [MachineWorld.call, processEvents_manager]
      exact h type
    · rw [MachineWorld.call, deliveriesTo, processEvents_deliveries, List.filter_append]
      have hnone : (world.manager.eventQueue.flatMap world.manager.triggerEvent).filter
          (fun delivery => decide (delivery.1 = machine)) = [] := by
        rw [List.filter_flatMap]
        refine List.flatMap_eq_nil_iff.mpr fun eventData _ => ?_
        exact h.triggerEvent eventData
      rw [hnone, List.append_nil]
      rfl
  | onDestroy subscriber =>
    dsimp only [MachineWorld.call]
    cases world.machines subscriber with
    | none => exact ⟨h, rfl⟩
    | some state =>
      exact ⟨fun type hmachine => h type (unsubscribe_delegates hmachine).1, rfl⟩
  | destructor subscriber =>
    dsimp only [MachineWorld.call]
    cases world.machines subscriber with
    | none => exact ⟨h, rfl⟩
    | some state =>
      exact ⟨fun type hmachine => h type (unsubscribe_delegates hmachine).1, rfl⟩

theorem Silenced.after_run {machine : MachineId} {calls : List MachineCall}
    {world : MachineWorld R} (h : Silenced machine world)
    (hcalls : ∀ kind gameObject, .construct machine kind gameObject ∉ calls) :
    deliveriesTo machine (run call world calls) = deliveriesTo machine world := by
  induction calls generalizing world with
  | nil => rfl
  | cons call calls ih =>
    obtain ⟨hnext, hsame⟩ := h.after_call fun kind gameObject heq =>
      hcalls kind gameObject (heq ▸ List.mem_cons_self)
    rw [run_cons, ih hnext fun kind gameObject hmem =>
      hcalls kind gameObject (List.mem_cons_of_mem call hmem), hsame]

/-- A destruction silences the machine. -/
theorem Enrolled.destroyed {world : MachineWorld R} (h : Enrolled world)
    {machine : MachineId} {destruction : MachineCall}
    (hdestroys : destruction.destroys machine) :
    Silenced machine (world.call destruction) ∧
      deliveriesTo machine (world.call destruction) = deliveriesTo machine world := by
  rcases hdestroys with rfl | rfl
  all_goals
    dsimp only [MachineWorld.call]
    cases hstate : world.machines machine with
    | none =>
      refine ⟨fun type hmachine => ?_, rfl⟩
      obtain ⟨state, hsome, -⟩ := h type machine hmachine
      cases hstate.symm.trans hsome
    | some state => exact ⟨h.unsubscribe_own hstate, rfl⟩

/-! ## The law and its breach -/

/-- In a run in which the destructions of a machine find nobody else subscribed to what
they unsubscribe, the machine is isolated from the others. -/
theorem destruction_isolated (machine : MachineId) (calls : List MachineCall)
    (hspares : Meets call (Spares machine) ({} : MachineWorld R) calls) :
    Isolated (R := R) machine calls := by
  have hstart : Without machine ({} : MachineWorld R) {} :=
    ⟨fun _ => rfl, rfl, rfl, fun _ _ => rfl⟩
  refine ⟨(hstart.after_run hspares).deliveries.symm, ?_⟩
  rintro before destruction later rfl hdestroys hlater
  obtain ⟨hsilenced, hsame⟩ := (enrolled_run (R := R) before).destroyed hdestroys
  rw [run_append, run_cons, hsilenced.after_run hlater, hsame]

/-- Two monsters, of which the first dies; then the second wants to attack. -/
def secondMonsterAttacks : List MachineCall := [
  .construct 0 .monster 0,
  .construct 1 .monster 1,
  .onDestroy 0,
  .requestStateChange 1 (.monster .attack),
  .processEvents]

/-- The second monster's request is lost. -/
theorem secondMonster_frozen : ¬ ∀ machine calls, Isolated (R := Unit) machine calls := by
  intro h
  have hsame := (h 0 secondMonsterAttacks).1
  revert hsame
  decide

/-- A monster dies alone, and then another appears and attacks. -/
theorem destruction_isolated_successor :
    Isolated (R := Unit) 0 [.construct 0 .monster 0, .onDestroy 0, .construct 1 .monster 1,
      .requestStateChange 1 (.monster .attack), .processEvents] := by
  refine destruction_isolated 0 _ ⟨nofun, ?_, nofun, nofun, nofun, trivial⟩
  intro _ state hstate type htype subscriber hsubscriber
  cases hstate
  rcases List.mem_cons.mp htype with rfl | htype
  · exact List.mem_singleton.mp hsubscriber
  · rw [List.mem_singleton.mp htype] at hsubscriber
    exact List.mem_singleton.mp hsubscriber

end MachineWorld

end SurvivalArena
