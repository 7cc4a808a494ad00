import SurvivalArena.Game.EventManager

/-!
# Delivery of events

Queued events are delivered in their order, and delayed ones when the frame lengths that
an update compares say what the game time says.
-/

namespace SurvivalArena

open Machine

variable {S P R : Type} [ClockScalar R]

/-- No update before a limit found that the delay had elapsed. -/
def NotDue (updates : List R) (event : ScheduledEvent P R) (limit : Nat) : Prop :=
  ∀ update, event.since ≤ update → update < limit →
    ∀ time, updates[update]? = some time → ¬ event.due ≤ time

/-- The first update by which the delay has elapsed. -/
structure FirstDue (updates : List R) (event : ScheduledEvent P R) (update : Nat) : Prop where
  since : event.since ≤ update
  due : ∃ time, updates[update]? = some time ∧ event.due ≤ time
  earlier : NotDue updates event update

theorem getElem?_append_some {α : Type} {as bs : List α} {index : Nat} {a : α}
    (h : as[index]? = some a) : (as ++ bs)[index]? = some a := by
  rw [List.getElem?_append_left (List.getElem?_eq_some_iff.mp h).1, h]

theorem NotDue.append {updates : List R} {event : ScheduledEvent P R} {limit : Nat}
    (h : NotDue updates event limit) (hlimit : limit ≤ updates.length) (later : List R) :
    NotDue (updates ++ later) event limit := by
  intro update hsince hbefore time htime
  rw [List.getElem?_append_left (by omega)] at htime
  exact h update hsince hbefore time htime

theorem FirstDue.append {updates : List R} {event : ScheduledEvent P R} {update : Nat}
    (h : FirstDue updates event update) (later : List R) :
    FirstDue (updates ++ later) event update := by
  obtain ⟨time, htime, hdue⟩ := h.due
  have hlimit := (List.getElem?_eq_some_iff.mp htime).1
  exact ⟨h.since, ⟨time, getElem?_append_some htime, hdue⟩,
    NotDue.append h.earlier (Nat.le_of_lt hlimit) later⟩

namespace EventLoop

/-- The updates that handed a scheduled event to the subscribers. -/
def handedIn (loop : EventLoop S P R) (number : Nat) : List Nat :=
  (loop.handed.filter fun handed => handed.origin = some number).map HandedEvent.update

def handedFromQueue (loop : EventLoop S P R) : List (EventData P) :=
  (loop.handed.filter fun handed => handed.origin = none).map HandedEvent.eventData

/-- Every event is delivered to every subscriber once, the queued ones in their order and
before an update returns, a delayed one in the first update by which its delay has
elapsed. -/
structure Delivered (loop : EventLoop S P R) : Prop where
  defined : loop.phase ≠ .dangling
  deliveries : loop.deliveries =
    loop.handed.flatMap fun handed => loop.manager.triggerEvent handed.eventData
  queued : loop.handedFromQueue ++ loop.manager.eventQueue = loop.queued
  settled : loop.settled ≤ loop.handedFromQueue.length
  scheduled : ∀ handed ∈ loop.handed, ∀ number, handed.origin = some number →
    ∃ event, loop.scheduled[number]? = some event ∧ event.eventData = handed.eventData
  once : ∀ number event, loop.scheduled[number]? = some event →
    loop.handedIn number = [] ∨
      ∃ update, loop.handedIn number = [update] ∧ FirstDue loop.updates event update
  kept : loop.phase = .idle → ∀ number event, loop.scheduled[number]? = some event →
    loop.handedIn number = [] → NotDue loop.updates event loop.updates.length

def EventCall.schedules : EventCall P R → Bool
  | .queueEvent _ => false
  | .scheduleEvent _ _ => true

/-- The vector has room for what the handlers schedule. -/
def hasRoom (loop : EventLoop S P R) (calls : List (EventCall P R)) : Bool :=
  loop.manager.delayedEvents.length + calls.countP EventCall.schedules ≤
    loop.manager.delayedCapacity

/-- Where an update looks at a delayed event, the length of the frame reaches the length
of the frame of the scheduling plus the delay exactly when the game time reaches that of
the scheduling plus the delay, and what its handlers schedule fits into the vector. -/
def agrees (loop : EventLoop S P R) (input : LoopInput P R) : Bool :=
  match input, loop.phase with
  | .next calls, .examining index =>
    match loop.manager.delayedEvents[index]?,
      loop.pending[index]?.bind fun number => loop.scheduled[number]? with
    | some delayed, some event =>
      decide (delayed.triggerTime ≤ loop.time.deltaTime) ==
          decide (event.due ≤ loop.time.gameTime) &&
        (!decide (delayed.triggerTime ≤ loop.time.deltaTime) ||
          loop.hasRoom (loop.handlerCalls delayed.eventData calls))
    | _, _ => true
  | _, _ => true

/-! ## The invariant -/

/-- The updates that have looked at an element of the vector come before this one. -/
def lookedAt (loop : EventLoop S P R) (position : Nat) : Nat :=
  match loop.phase with
  | .examining index =>
    if position < index then loop.updates.length else loop.updates.length - 1
  | _ => loop.updates.length

/-- A scheduled event waits at a position of the vector. -/
structure Waits (loop : EventLoop S P R) (position number : Nat) : Prop where
  delayed : ∃ delayed event, loop.manager.delayedEvents[position]? = some delayed ∧
    loop.scheduled[number]? = some event ∧ event.eventData = delayed.eventData ∧
    event.since ≤ loop.horizon ∧ NotDue loop.updates event (loop.lookedAt position)
  unhanded : loop.handedIn number = []

/-- What holds between the turns; `held` is the position of an element that has been
handed over and is about to be erased. -/
structure Kept (held : Option Nat) (loop : EventLoop S P R) : Prop where
  defined : loop.phase ≠ .dangling
  deliveries : loop.deliveries =
    loop.handed.flatMap fun handed => loop.manager.triggerEvent handed.eventData
  queued : loop.handedFromQueue ++ loop.manager.eventQueue = loop.queued
  settled : loop.settled ≤ loop.handedFromQueue.length
  scheduled : ∀ handed ∈ loop.handed, ∀ number, handed.origin = some number →
    ∃ event, loop.scheduled[number]? = some event ∧ event.eventData = handed.eventData
  aligned : loop.pending.length = loop.manager.delayedEvents.length
  nodup : loop.pending.Nodup
  numbers : ∀ number ∈ loop.pending, number < loop.scheduled.length
  position : ∀ index, loop.phase = .examining index → index ≤ loop.pending.length
  clock : loop.phase ≠ .idle → loop.updates.getLast? = some loop.time.gameTime
  waits : ∀ position number, some position ≠ held → loop.pending[position]? = some number →
    loop.Waits position number
  handed : ∀ number event, loop.scheduled[number]? = some event →
    (∀ position, some position ≠ held → loop.pending[position]? ≠ some number) →
    ∃ update, loop.handedIn number = [update] ∧ FirstDue loop.updates event update

theorem Kept.delivered {loop : EventLoop S P R} (h : Kept none loop) : Delivered loop where
  defined := h.defined
  deliveries := h.deliveries
  queued := h.queued
  settled := h.settled
  scheduled := h.scheduled
  once number event hevent := by
    by_cases hwaits : ∃ position : Nat, loop.pending[position]? = some number
    · obtain ⟨position, hposition⟩ := hwaits
      exact .inl (h.waits position number nofun hposition).unhanded
    · refine .inr (h.handed number event hevent fun position _ hposition => ?_)
      exact hwaits ⟨position, hposition⟩
  kept hidle number event hevent hnone := by
    by_cases hwaits : ∃ position : Nat, loop.pending[position]? = some number
    · obtain ⟨position, hposition⟩ := hwaits
      obtain ⟨_, event', -, hevent', -, -, hnotDue⟩ :=
        (h.waits position number nofun hposition).delayed
      cases hevent.symm.trans hevent'
      have hall : loop.lookedAt position = loop.updates.length := by
        simp [lookedAt, hidle]
      rwa [hall] at hnotDue
    · obtain ⟨update, hupdate, -⟩ := h.handed number event hevent
        fun position _ hposition => hwaits ⟨position, hposition⟩
      rw [hnone] at hupdate
      cases hupdate

/-! ## Calls -/

section Calls

variable {grow : Nat → Nat}

theorem Kept.queueEvent {held : Option Nat} {loop : EventLoop S P R} (h : Kept held loop)
    (eventData : EventData P) : Kept held (loop.makeCall grow (.queueEvent eventData)) where
  defined := h.defined
  deliveries := h.deliveries
  queued := by
    change loop.handedFromQueue ++ (loop.manager.eventQueue ++ [eventData]) =
      loop.queued ++ [eventData]
    rw [← List.append_assoc, h.queued]
  settled := h.settled
  scheduled := h.scheduled
  aligned := h.aligned
  nodup := h.nodup
  numbers := h.numbers
  position := h.position
  clock := h.clock
  waits position number hheld hposition :=
    ⟨(h.waits position number hheld hposition).delayed,
      (h.waits position number hheld hposition).unhanded⟩
  handed := h.handed

/-- A scheduled event waits at the end of the vector. -/
theorem Kept.scheduleEvent {held : Option Nat} {loop : EventLoop S P R}
    (h : Kept held loop) (eventData : EventData P) (delay : R)
    (hheld : ∀ position, held = some position → position < loop.pending.length)
    (hroom : loop.isExamining = true →
      loop.manager.delayedEvents.length ≠ loop.manager.delayedCapacity) :
    Kept held (loop.scheduleEvent grow eventData delay) := by
  have hphase : (loop.scheduleEvent grow eventData delay).phase = loop.phase := by
    refine if_neg fun hfull => ?_
    obtain ⟨hlength, hexamining⟩ := Bool.and_eq_true_iff.mp hfull
    exact hroom hexamining (beq_iff_eq.mp hlength)
  have hhorizon : (loop.scheduleEvent grow eventData delay).horizon = loop.horizon := by
    unfold horizon
    rw [hphase]
    rfl
  have hlooked (position : Nat) :
      (loop.scheduleEvent grow eventData delay).lookedAt position =
        loop.lookedAt position := by
    unfold lookedAt
    rw [hphase]
    rfl
  have hfresh : loop.scheduled.length ∉ loop.pending := fun hmem =>
    absurd (h.numbers _ hmem) (Nat.lt_irrefl _)
  exact {
    defined := by
      rw [hphase]
      exact h.defined
    deliveries := h.deliveries
    queued := h.queued
    settled := h.settled
    scheduled := fun handed hhanded number horigin => by
      obtain ⟨event, hevent, hsame⟩ := h.scheduled handed hhanded number horigin
      exact ⟨event, getElem?_append_some hevent, hsame⟩
    aligned := by
      change (loop.pending ++ [loop.scheduled.length]).length =
        (loop.manager.delayedEvents ++ [_]).length
      rw [List.length_append, List.length_append, h.aligned]
      rfl
    nodup := by
      refine List.nodup_append.mpr ⟨h.nodup, List.nodup_singleton _, ?_⟩
      rintro number hnumber other hother rfl
      exact hfresh (List.mem_singleton.mp hother ▸ hnumber)
    numbers := fun number hnumber => by
      change number < (loop.scheduled ++ [_]).length
      rw [List.length_append]
      rcases List.mem_append.mp hnumber with hold | hnew
      · exact Nat.lt_add_right _ (h.numbers number hold)
      · rw [List.mem_singleton.mp hnew]
        exact Nat.lt_succ_self _
    position := fun index hindex => by
      rw [hphase] at hindex
      change index ≤ (loop.pending ++ [_]).length
      rw [List.length_append]
      exact Nat.le_add_right_of_le (h.position index hindex)
    clock := fun hactive => h.clock (hphase ▸ hactive)
    waits := fun position number hposition hnumber => by
      change (loop.pending ++ [loop.scheduled.length])[position]? = some number at hnumber
      by_cases hold : position < loop.pending.length
      · rw [List.getElem?_append_left hold] at hnumber
        obtain ⟨⟨delayed, event, hdelayed, hevent, hsame, hsince, hnotDue⟩, hunhanded⟩ :=
          h.waits position number hposition hnumber
        refine ⟨⟨delayed, event, getElem?_append_some hdelayed,
          getElem?_append_some hevent, hsame, ?_, ?_⟩, hunhanded⟩
        · rw [hhorizon]
          exact hsince
        · rw [hlooked]
          exact hnotDue
      · obtain ⟨hlast, rfl⟩ : position = loop.pending.length ∧
            number = loop.scheduled.length := by
          rw [List.getElem?_append_right (Nat.le_of_not_lt hold)] at hnumber
          obtain ⟨hshort, hvalue⟩ := List.getElem?_eq_some_iff.mp hnumber
          have hzero : position - loop.pending.length = 0 := by
            simpa using hshort
          refine ⟨by omega, ?_⟩
          simpa [hzero] using hvalue.symm
        have hdelayed : (loop.scheduleEvent grow eventData delay).manager.delayedEvents[
            position]? = some ⟨eventData, loop.time.deltaTime + delay⟩ := by
          rw [hlast, h.aligned]
          exact List.getElem?_concat_length
        refine ⟨⟨_, _, hdelayed, List.getElem?_concat_length, rfl, ?_, ?_⟩, ?_⟩
        · exact hhorizon ▸ Nat.le_refl _
        · intro update hsince hlimit
          rw [hlooked] at hlimit
          exfalso
          have hempty : loop.lookedAt position ≤ loop.horizon := by
            unfold lookedAt horizon
            cases hcase : loop.phase with
            | examining index =>
              have hindex := h.position index hcase
              dsimp only
              exact Nat.le_of_eq (if_neg (by omega))
            | idle => exact Nat.le_refl _
            | draining => exact Nat.le_refl _
            | dangling => exact Nat.le_refl _
          exact absurd (Nat.lt_of_le_of_lt hsince (Nat.lt_of_lt_of_le hlimit hempty))
            (Nat.lt_irrefl _)
        · refine List.map_eq_nil_iff.mpr (List.filter_eq_nil_iff.mpr fun handed hhanded => ?_)
          rw [decide_eq_true_iff]
          intro horigin
          obtain ⟨event, hevent, -⟩ := h.scheduled handed hhanded _ horigin
          exact absurd (List.getElem?_eq_some_iff.mp hevent).1 (Nat.lt_irrefl _)
    handed := fun number event hevent hgone => by
      change (loop.scheduled ++ [_])[number]? = some event at hevent
      have hother : number ≠ loop.scheduled.length := by
        rintro rfl
        refine hgone loop.pending.length (fun hsame => ?_) List.getElem?_concat_length
        exact absurd (hheld _ hsame.symm) (Nat.lt_irrefl _)
      have hold : number < loop.scheduled.length := by
        have hlt := (List.getElem?_eq_some_iff.mp hevent).1
        rw [List.length_append, List.length_singleton] at hlt
        omega
      rw [List.getElem?_append_left hold] at hevent
      refine h.handed number event hevent fun position hposition hnumber => ?_
      exact hgone position hposition (getElem?_append_some hnumber) }

theorem pending_length_le (calls : List (EventCall P R)) (loop : EventLoop S P R) :
    loop.pending.length ≤ (calls.foldl (makeCall grow) loop).pending.length := by
  induction calls generalizing loop with
  | nil => exact Nat.le_refl _
  | cons call calls ih =>
    refine Nat.le_trans ?_ (ih (loop.makeCall grow call))
    cases call with
    | queueEvent eventData => exact Nat.le_refl _
    | scheduleEvent eventData delay =>
      change _ ≤ (loop.pending ++ [_]).length
      rw [List.length_append]
      exact Nat.le_add_right _ _

/-- The calls of the handlers in a turn. -/
theorem Kept.makeCalls {held : Option Nat} {loop : EventLoop S P R} (h : Kept held loop)
    (calls : List (EventCall P R))
    (hheld : ∀ position, held = some position → position < loop.pending.length)
    (hroom : loop.isExamining = true → loop.hasRoom calls = true) :
    Kept held (calls.foldl (makeCall grow) loop) ∧
      (calls.foldl (makeCall grow) loop).phase = loop.phase := by
  induction calls generalizing loop with
  | nil => exact ⟨h, rfl⟩
  | cons call calls ih =>
    rw [List.foldl_cons]
    cases call with
    | queueEvent eventData =>
      exact ih (h.queueEvent eventData) hheld fun hexamining => by
        have hfits := hroom hexamining
        rw [hasRoom, List.countP_cons_of_neg (by simp [EventCall.schedules])] at hfits
        exact hfits
    | scheduleEvent eventData delay =>
      have hfits (hexamining : loop.isExamining = true) :
          loop.manager.delayedEvents.length + calls.countP EventCall.schedules + 1 ≤
            loop.manager.delayedCapacity := by
        have hfits := hroom hexamining
        rwa [hasRoom, decide_eq_true_iff, List.countP_cons_of_pos (by rfl),
          ← Nat.add_assoc] at hfits
      have hnext : Kept held (loop.scheduleEvent grow eventData delay) :=
        h.scheduleEvent eventData delay hheld fun hexamining => by
          have hfits := hfits hexamining
          omega
      have hphase : (loop.scheduleEvent grow eventData delay).phase = loop.phase := by
        refine if_neg fun hfull => ?_
        obtain ⟨hlength, hexamining⟩ := Bool.and_eq_true_iff.mp hfull
        have hfits := hfits hexamining
        have hlength := beq_iff_eq.mp hlength
        omega
      obtain ⟨hkept, hsame⟩ := ih hnext (fun position hposition => by
        change position < (loop.pending ++ [_]).length
        rw [List.length_append]
        exact Nat.lt_add_right _ (hheld position hposition)) (fun hexamining => by
        have hexamining' : loop.isExamining = true := by
          unfold isExamining at hexamining ⊢
          rwa [hphase] at hexamining
        have hfits := hfits hexamining'
        refine decide_eq_true ?_
        change (loop.manager.delayedEvents ++ [_]).length + _ ≤
          if loop.manager.delayedEvents.length == loop.manager.delayedCapacity then
            grow loop.manager.delayedCapacity else loop.manager.delayedCapacity
        rw [List.length_append, List.length_singleton, if_neg]
        · omega
        · rw [beq_iff_eq]
          omega)
      exact ⟨hkept, hsame.trans hphase⟩

end Calls

/-! ## Turns -/

section Turns

variable {grow : Nat → Nat}

/-- A queued event is triggered. -/
theorem Kept.trigger_queued {loop : EventLoop S P R} {eventData : EventData P}
    {eventQueue : List (EventData P)} (h : Kept none loop)
    (hqueue : loop.manager.eventQueue = eventData :: eventQueue) :
    Kept none ({ loop with manager := { loop.manager with eventQueue } }.trigger none
      eventData) := by
  have hqueued : (({ loop with manager := { loop.manager with eventQueue } } :
      EventLoop S P R).trigger none eventData).handedFromQueue =
      loop.handedFromQueue ++ [eventData] := by
    change ((loop.handed ++ [_]).filter _).map _ = _
    rw [List.filter_append, List.map_append]
    rfl
  have hhanded (number : Nat) : (({ loop with
      manager := { loop.manager with eventQueue } } :
      EventLoop S P R).trigger none eventData).handedIn number = loop.handedIn number := by
    change ((loop.handed ++ [_]).filter _).map _ = _
    rw [List.filter_append, List.map_append]
    exact List.append_nil _
  exact {
    defined := h.defined
    deliveries := by
      change loop.deliveries ++ loop.manager.triggerEvent eventData =
        (loop.handed ++ [_]).flatMap fun handed : HandedEvent P =>
          loop.manager.triggerEvent handed.eventData
      rw [List.flatMap_append, h.deliveries]
      exact congrArg _ (List.append_nil _).symm
    queued := by
      rw [hqueued]
      change loop.handedFromQueue ++ [eventData] ++ eventQueue = loop.queued
      rw [← h.queued, hqueue, List.append_assoc]
      rfl
    settled := by
      rw [hqueued, List.length_append]
      exact Nat.le_add_right_of_le h.settled
    scheduled := fun handed hmem number horigin => by
      rcases List.mem_append.mp hmem with hold | hnew
      · exact h.scheduled handed hold number horigin
      · rw [List.mem_singleton.mp hnew] at horigin
        cases horigin
    aligned := h.aligned
    nodup := h.nodup
    numbers := h.numbers
    position := h.position
    clock := h.clock
    waits := fun position number hheld hposition => by
      obtain ⟨hdelayed, hunhanded⟩ := h.waits position number hheld hposition
      exact ⟨hdelayed, (hhanded number).trans hunhanded⟩
    handed := fun number event hevent hgone => by
      rw [hhanded]
      exact h.handed number event hevent hgone }

/-- A delayed event is triggered when its delay has elapsed. -/
theorem Kept.trigger_delayed {loop : EventLoop S P R} {index number : Nat}
    {delayed : DelayedEvent P R} {event : ScheduledEvent P R} (h : Kept none loop)
    (hphase : loop.phase = .examining index)
    (hdelayed : loop.manager.delayedEvents[index]? = some delayed)
    (hnumber : loop.pending[index]? = some number)
    (hevent : loop.scheduled[number]? = some event)
    (hdue : event.due ≤ loop.time.gameTime) :
    Kept (some index) (loop.trigger (some number) delayed.eventData) := by
  obtain ⟨⟨delayed', event', hdelayed', hevent', hsame, hsince, hnotDue⟩, hunhanded⟩ :=
    h.waits index number nofun hnumber
  cases hdelayed.symm.trans hdelayed'
  cases hevent.symm.trans hevent'
  have hqueued : (loop.trigger (some number) delayed.eventData).handedFromQueue =
      loop.handedFromQueue := by
    change ((loop.handed ++ [_]).filter _).map _ = _
    rw [List.filter_append, List.map_append]
    exact List.append_nil _
  have hhanded (other : Nat) :
      (loop.trigger (some number) delayed.eventData).handedIn other =
        loop.handedIn other ++
          if other = number then [loop.updates.length - 1] else [] := by
    change ((loop.handed ++ [_]).filter _).map _ = _
    rw [List.filter_append, List.map_append]
    refine congrArg _ ?_
    by_cases hother : other = number
    · simp [hother]
    · simp [hother, Ne.symm hother]
  have hclock := h.clock (by rw [hphase]; nofun)
  rw [List.getLast?_eq_getElem?] at hclock
  exact {
    defined := h.defined
    deliveries := by
      change loop.deliveries ++ loop.manager.triggerEvent delayed.eventData =
        (loop.handed ++ [_]).flatMap fun handed : HandedEvent P =>
          loop.manager.triggerEvent handed.eventData
      rw [List.flatMap_append, h.deliveries]
      exact congrArg _ (List.append_nil _).symm
    queued := by
      rw [hqueued]
      exact h.queued
    settled := by
      rw [hqueued]
      exact h.settled
    scheduled := fun handed hmem other horigin => by
      rcases List.mem_append.mp hmem with hold | hnew
      · exact h.scheduled handed hold other horigin
      · rw [List.mem_singleton.mp hnew] at horigin ⊢
        cases horigin
        exact ⟨event, hevent, hsame⟩
    aligned := h.aligned
    nodup := h.nodup
    numbers := h.numbers
    position := h.position
    clock := h.clock
    waits := fun position other hheld hposition => by
      obtain ⟨hwaits, hnone⟩ := h.waits position other nofun hposition
      refine ⟨hwaits, ?_⟩
      rw [hhanded, hnone, if_neg]
      · rfl
      · rintro rfl
        have hposition' := List.getElem?_eq_some_iff.mp hposition
        have hindex' := List.getElem?_eq_some_iff.mp hnumber
        refine hheld (congrArg some ?_)
        exact (List.Nodup.getElem_inj_iff h.nodup).mp
          (hposition'.2.trans hindex'.2.symm)
    handed := fun other otherEvent hother hgone => by
      rw [hhanded]
      by_cases hsameNumber : other = number
      · cases hsameNumber
        cases hevent.symm.trans hother
        refine ⟨loop.updates.length - 1, ?_, ?_, ⟨_, hclock, hdue⟩, ?_⟩
        · rw [hunhanded, if_pos rfl]
          rfl
        · simpa [horizon, hphase] using hsince
        · have hlooked : loop.lookedAt index = loop.updates.length - 1 := by
            simp [lookedAt, hphase]
          exact hlooked ▸ hnotDue
      · rw [if_neg hsameNumber, List.append_nil]
        refine h.handed other otherEvent hother fun position _ hposition => ?_
        refine hgone position (fun hindex => ?_) hposition
        cases hindex
        exact hsameNumber (Option.some.inj (hposition.symm.trans hnumber)) }

/-- The element that was handed over is erased. -/
theorem Kept.eraseDelayed {loop : EventLoop S P R} {index : Nat}
    (h : Kept (some index) loop) (hphase : loop.phase = .examining index)
    (hindex : index < loop.pending.length) : Kept none (loop.eraseDelayed index) where
  defined := h.defined
  deliveries := h.deliveries
  queued := h.queued
  settled := h.settled
  scheduled := h.scheduled
  aligned := by
    change (loop.pending.eraseIdx index).length =
      (loop.manager.delayedEvents.eraseIdx index).length
    rw [List.length_eraseIdx, List.length_eraseIdx, h.aligned]
  nodup := h.nodup.sublist (List.eraseIdx_sublist _ _)
  numbers number hnumber := h.numbers number (List.mem_of_mem_eraseIdx hnumber)
  position other hother := by
    cases hphase.symm.trans hother
    change index ≤ (loop.pending.eraseIdx index).length
    rw [List.length_eraseIdx_of_lt hindex]
    omega
  clock := h.clock
  waits position number _ hposition := by
    change (loop.pending.eraseIdx index)[position]? = some number at hposition
    rw [List.getElem?_eraseIdx] at hposition
    split at hposition
    · rename_i hbefore
      obtain ⟨⟨delayed, event, hdelayed, hrest⟩, hunhanded⟩ :=
        h.waits position number (fun hsame => by cases hsame; omega) hposition
      refine ⟨⟨delayed, event, ?_, hrest⟩, hunhanded⟩
      change (loop.manager.delayedEvents.eraseIdx index)[position]? = some delayed
      rw [List.getElem?_eraseIdx, if_pos hbefore, hdelayed]
    · rename_i hbehind
      obtain ⟨⟨delayed, event, hdelayed, hevent, hsame, hsince, hnotDue⟩, hunhanded⟩ :=
        h.waits (position + 1) number (fun hsame => by cases hsame; omega) hposition
      refine ⟨⟨delayed, event, ?_, hevent, hsame, hsince, ?_⟩, hunhanded⟩
      · change (loop.manager.delayedEvents.eraseIdx index)[position]? = some delayed
        rw [List.getElem?_eraseIdx, if_neg hbehind, hdelayed]
      · have hlooked : (loop.eraseDelayed index).lookedAt position =
            loop.lookedAt (position + 1) := by
          change (match loop.phase with
            | .examining index =>
              if position < index then loop.updates.length else loop.updates.length - 1
            | _ => loop.updates.length) = _
          unfold lookedAt
          rw [hphase]
          dsimp only
          rw [if_neg hbehind, if_neg (by omega)]
        rw [hlooked]
        exact hnotDue
  handed number event hevent hgone := by
    refine h.handed number event hevent fun position hheld hposition => ?_
    have hother : position ≠ index := fun hsame => hheld (congrArg some hsame)
    by_cases hbefore : position < index
    · refine hgone position nofun ?_
      change (loop.pending.eraseIdx index)[position]? = some number
      rw [List.getElem?_eraseIdx, if_pos hbefore, hposition]
    · refine hgone (position - 1) nofun ?_
      change (loop.pending.eraseIdx index)[position - 1]? = some number
      rw [List.getElem?_eraseIdx, if_neg (by omega), Nat.sub_add_cancel (by omega), hposition]

theorem Kept.examine {loop : EventLoop S P R} {index : Nat}
    {calls : List (EventCall P R)} (h : Kept none loop)
    (hphase : loop.phase = .examining index) (hagrees : loop.agrees (.next calls) = true) :
    Kept none (loop.examine grow index calls) := by
  unfold EventLoop.examine
  cases hdelayed : loop.manager.delayedEvents[index]? with
  | none =>
    have hend : loop.pending.length ≤ index :=
      h.aligned ▸ List.getElem?_eq_none_iff.mp hdelayed
    exact { h with
      defined := nofun
      position := nofun
      clock := fun _ => h.clock (by rw [hphase]; nofun)
      waits := fun position number hheld hposition => by
        obtain ⟨⟨delayed, event, hdelayed, hevent, hsame, hsince, hnotDue⟩, hunhanded⟩ :=
          h.waits position number hheld hposition
        have hbefore : position < index :=
          Nat.lt_of_lt_of_le (List.getElem?_eq_some_iff.mp hposition).1 hend
        simp only [horizon, lookedAt, hphase, if_pos hbefore] at hsince hnotDue
        refine ⟨⟨delayed, event, hdelayed, hevent, hsame, ?_, hnotDue⟩, hunhanded⟩
        exact Nat.le_trans hsince (Nat.sub_le _ 1) }
  | some delayed =>
    have hindex : index < loop.pending.length :=
      h.aligned ▸ (List.getElem?_eq_some_iff.mp hdelayed).1
    have hnumber := List.getElem?_eq_getElem hindex
    obtain ⟨delayed', event, hdelayed', hevent, -⟩ := (h.waits index _ nofun hnumber).delayed
    cases hdelayed.symm.trans hdelayed'
    have hagrees' : (decide (delayed.triggerTime ≤ loop.time.deltaTime) ==
        decide (event.due ≤ loop.time.gameTime) &&
        (!decide (delayed.triggerTime ≤ loop.time.deltaTime) ||
          loop.hasRoom (loop.handlerCalls delayed.eventData calls))) = true := by
      simpa only [agrees, hphase, hdelayed, hnumber, Option.bind_some, hevent] using hagrees
    obtain ⟨hclocks, hroom⟩ := Bool.and_eq_true_iff.mp hagrees'
    rw [beq_iff_eq, decide_eq_decide] at hclocks
    rw [Bool.or_eq_true, Bool.not_eq_true', decide_eq_false_iff_not] at hroom
    dsimp only
    split
    · rename_i htime
      rw [hnumber]
      have htriggered := h.trigger_delayed hphase hdelayed hnumber hevent (hclocks.mp htime)
      obtain ⟨hkept, hsame⟩ := htriggered.makeCalls (loop.handlerCalls delayed.eventData calls)
        (fun position hposition => by cases hposition; exact hindex)
        (fun _ => hroom.resolve_left (not_not.mpr htime))
      refine hkept.eraseDelayed (hsame.trans hphase) (Nat.lt_of_lt_of_le hindex ?_)
      exact pending_length_le (loop.handlerCalls delayed.eventData calls)
        (loop.trigger (some loop.pending[index]) delayed.eventData)
    · rename_i htime
      have hnotYet : ¬ event.due ≤ loop.time.gameTime := fun hdue => htime (hclocks.mpr hdue)
      have hclock := h.clock (by rw [hphase]; nofun)
      rw [List.getLast?_eq_getElem?] at hclock
      exact { h with
        defined := nofun
        position := fun other hother => by
          cases hother
          exact hindex
        clock := fun _ => h.clock (by rw [hphase]; nofun)
        waits := fun position number hheld hposition => by
          obtain ⟨⟨delayed, other, hdelayed, hother, hsame, hsince, hnotDue⟩, hunhanded⟩ :=
            h.waits position number hheld hposition
          simp only [horizon, lookedAt, hphase] at hsince hnotDue
          refine ⟨⟨delayed, other, hdelayed, hother, hsame, hsince, ?_⟩, hunhanded⟩
          simp only [lookedAt]
          by_cases hbefore : position < index
          · rw [if_pos hbefore] at hnotDue
            rwa [if_pos (by omega)]
          · rw [if_neg hbefore] at hnotDue
            by_cases hhere : position = index
            · -- The element that has just been looked at.
              rw [if_pos (by omega)]
              cases hhere
              cases hposition.symm.trans hnumber
              cases hevent.symm.trans hother
              intro update hlater hlimit time htime
              by_cases hlast : update = loop.updates.length - 1
              · rw [hlast, hclock] at htime
                exact Option.some.inj htime ▸ hnotYet
              · exact hnotDue update hlater (by omega) time htime
            · rwa [if_neg (by omega)] }

theorem Kept.processEvent {loop : EventLoop S P R} {calls : List (EventCall P R)}
    (h : Kept none loop) (hphase : loop.phase = .draining) :
    Kept none (loop.processEvent grow calls) := by
  unfold EventLoop.processEvent
  cases hqueue : loop.manager.eventQueue with
  | nil =>
    have hall : loop.handedFromQueue = loop.queued := by
      rw [← h.queued, hqueue, List.append_nil]
    exact { h with
      defined := nofun
      settled := by
        change loop.queued.length ≤ loop.handedFromQueue.length
        exact Nat.le_of_eq (congrArg List.length hall.symm)
      position := nofun
      clock := fun hactive => absurd rfl hactive
      waits := fun position number hheld hposition => by
        obtain ⟨⟨delayed, event, hdelayed, hevent, hsame, hsince, hnotDue⟩, hunhanded⟩ :=
          h.waits position number hheld hposition
        simp only [horizon, lookedAt, hphase] at hsince hnotDue
        exact ⟨⟨delayed, event, hdelayed, hevent, hsame, hsince, hnotDue⟩, hunhanded⟩ }
  | cons eventData eventQueue =>
    refine ((h.trigger_queued hqueue).makeCalls _ nofun fun hexamining => ?_).1
    change (match loop.phase with
      | .examining _ => true
      | _ => false) = true at hexamining
    rw [hphase] at hexamining
    cases hexamining

theorem Kept.step {loop : EventLoop S P R} {input : LoopInput P R} (h : Kept none loop)
    (hagrees : loop.agrees input = true) : Kept none (loop.step grow input) := by
  unfold EventLoop.step
  split
  · rename_i count hphase
    exact { h with
      clock := fun hactive => absurd hphase hactive
      waits := fun position number hheld hposition =>
        ⟨(h.waits position number hheld hposition).delayed,
          (h.waits position number hheld hposition).unhanded⟩ }
  · rename_i count hphase
    exact { h with
      clock := fun hactive => absurd hphase hactive
      waits := fun position number hheld hposition =>
        ⟨(h.waits position number hheld hposition).delayed,
          (h.waits position number hheld hposition).unhanded⟩ }
  · rename_i call hphase
    exact (h.makeCalls [call] nofun fun hexamining => by
      simp [isExamining, hphase] at hexamining).1
  · rename_i hphase
    exact { h with
      defined := nofun
      position := fun index hindex => by
        cases hindex
        exact Nat.zero_le _
      clock := fun _ => List.getLast?_concat
      waits := fun position number hheld hposition => by
        obtain ⟨⟨delayed, event, hdelayed, hevent, hsame, hsince, hnotDue⟩, hunhanded⟩ :=
          h.waits position number hheld hposition
        simp only [horizon, lookedAt, hphase] at hsince hnotDue
        refine ⟨⟨delayed, event, hdelayed, hevent, hsame, ?_, ?_⟩, hunhanded⟩
        · simpa [horizon] using hsince
        · simp only [lookedAt, Nat.not_lt_zero, if_false, List.length_append,
            List.length_singleton, Nat.add_sub_cancel]
          exact NotDue.append hnotDue (Nat.le_refl _) _
      handed := fun number event hevent hgone => by
        obtain ⟨update, hhanded, hfirst⟩ := h.handed number event hevent hgone
        exact ⟨update, hhanded, hfirst.append _⟩ }
  · rename_i calls index hphase
    exact h.examine hphase hagrees
  · rename_i calls hphase
    exact h.processEvent hphase
  · exact h

end Turns

/-! ## Runs -/

/-- The game starts with some subscribers and a clock. -/
def begins (eventDelegates : EventType → List S) (time : TimeManager R) :
    EventLoop S P R where
  manager := { eventDelegates }
  time

theorem begins_kept (eventDelegates : EventType → List S) (time : TimeManager R) :
    Kept none (begins eventDelegates time : EventLoop S P R) where
  defined := nofun
  deliveries := rfl
  queued := rfl
  settled := Nat.le_refl 0
  scheduled := nofun
  aligned := rfl
  nodup := List.nodup_nil
  numbers := nofun
  position := nofun
  clock hactive := absurd rfl hactive
  waits _ _ _ hposition := nomatch hposition
  handed _ _ hevent := nomatch hevent

/-- A clock with a hundred counts a second. -/
def coarseClock : TimeManager Float32 := { frequency := 100 }

/-- A frame with an update that looks at one delayed event and finds the queue empty. -/
def quietFrame (count : UInt64) : List (LoopInput Unit Float32) :=
  [.frame count, .update, .next [], .next [], .next []]

/-- An event is scheduled at the start, and two frames of a hundredth of a second pass. -/
def scheduledAtStart (delay : Float32) : List (LoopInput Unit Float32) :=
  [.call (.scheduleEvent ⟨.playerDeath, ()⟩ delay)] ++ quietFrame 1 ++ quietFrame 2

end EventLoop

end SurvivalArena
