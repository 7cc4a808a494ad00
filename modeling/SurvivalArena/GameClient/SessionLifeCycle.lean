import SurvivalArena.GameClient.GameSession

/-!
# The life cycle of a client session

The session as its owner sees it, and that the handlers and calls move it only as its life
cycle says while no handler comes too late.
-/

namespace SurvivalArena

open Machine

namespace GameSessionState

def rank : GameSessionState → Nat
  | idle => 0
  | connecting => 1
  | authenticating => 2
  | bindingUdp => 3
  | synchronizing => 4
  | running => 5
  | finished => 6
  | protocolError => 6
  | closed => 6

def terminal (state : GameSessionState) : Prop :=
  state = finished ∨ state = protocolError ∨ state = closed

instance (state : GameSessionState) : Decidable state.terminal :=
  inferInstanceAs (Decidable (_ ∨ _ ∨ _))

theorem terminal_iff (state : GameSessionState) : state.terminal ↔ state.rank = 6 := by
  cases state <;> decide

theorem rank_le (state : GameSessionState) : state.rank ≤ 6 := by
  cases state <;> decide

end GameSessionState

/-! ## The life cycle -/

/-- The connection and the snapshots of a session, and how many operations towards the
connection and the addresses are in flight. -/
structure SessionFlags where
  tcpOpen : Bool
  queued : Bool
  opening : Nat
  resolving : Nat

structure SessionFlags.Within (flags bound : SessionFlags) : Prop where
  tcpOpen : flags.tcpOpen = true → bound.tcpOpen = true
  queued : flags.queued = true → bound.queued = true
  opening : flags.opening ≤ bound.opening
  resolving : flags.resolving ≤ bound.resolving

theorem SessionFlags.within_self (flags : SessionFlags) : flags.Within flags :=
  ⟨id, id, le_rfl, le_rfl⟩

/-- What the life cycle of a session is about; `closing` counts the closes of the network
that have been posted. -/
structure LifeCycle where
  state : GameSessionState
  stopRequested : Bool
  udpOpen : Bool
  matchResult : Option GameMatchResult
  closing : Nat
  flags : SessionFlags

def SessionEvent.stops : SessionEvent → Prop
  | .stop _ _ => True
  | _ => False

namespace LifeCycle

/-- The moves of a life cycle. -/
inductive Moves (life : LifeCycle) (event : SessionEvent) :
    LifeCycle → List SessionOutput → Prop where
  | stays (flags : SessionFlags) (hflags : flags.Within life.flags) (hevent : ¬ event.stops) :
      Moves life event { life with flags } []
  | sends (datagram : ClientDatagram) (hopen : life.udpOpen = true) (hevent : ¬ event.stops) :
      Moves life event life [.sent datagram]
  | receives (hrank : 4 ≤ life.state.rank) (hevent : ¬ event.stops) :
      Moves life event { life with flags := { life.flags with queued := true } } []
  | starts (hidle : life.state = .idle) (hevent : ¬ event.stops) :
      Moves life event { life with
        state := .connecting
        stopRequested := false
        flags := { life.flags with opening := life.flags.opening + 1 } } []
  | unreachable (flags : SessionFlags) (hflags : flags.Within life.flags)
      (hstop : life.stopRequested = false) (hopening : flags.opening < life.flags.opening)
      (hevent : ¬ event.stops) : Moves life event { life with state := .closed, flags } []
  | attaches (flags : SessionFlags) (hflags : flags.Within life.flags)
      (hstop : life.stopRequested = false) (hopening : flags.opening < life.flags.opening)
      (hevent : ¬ event.stops) :
      Moves life event { life with
        state := .authenticating
        flags := { flags with tcpOpen := true } } []
  | fails (flags : SessionFlags) (hflags : flags.Within { life.flags with tcpOpen := true })
      (hrank : 2 ≤ life.state.rank ∨ flags.opening < life.flags.opening)
      (hfinished : life.state ≠ .finished) (hclosed : life.state ≠ .closed)
      (hevent : ¬ event.stops) :
      Moves life event { life with state := .protocolError, udpOpen := false, flags } []
  | failsFromCaller (flags : SessionFlags) (hflags : flags.Within life.flags)
      (hrank : 4 ≤ life.state.rank) (hlive : ¬ life.state.terminal) (hevent : ¬ event.stops) :
      Moves life event { life with
        state := .protocolError
        closing := life.closing + 1
        flags } []
  | welcomed (hstate : life.state = .authenticating) (hevent : ¬ event.stops) :
      Moves life event { life with
        state := .bindingUdp
        flags := { life.flags with resolving := life.flags.resolving + 1 } } []
  | resolved (flags : SessionFlags) (hflags : flags.Within life.flags)
      (outputs : List SessionOutput) (hresolving : flags.resolving < life.flags.resolving)
      (hlive : ¬ life.state.terminal) (hstored : ∀ result, .resultStored result ∉ outputs)
      (hevent : ¬ event.stops) :
      Moves life event { life with udpOpen := true, flags } outputs
  | bound (flags : SessionFlags) (hflags : flags.Within life.flags)
      (hstate : life.state = .bindingUdp) (hevent : ¬ event.stops) :
      Moves life event { life with state := .synchronizing, flags } []
  | runs (flags : SessionFlags) (hflags : flags.Within life.flags)
      (hstate : life.state = .synchronizing) (hevent : ¬ event.stops) :
      Moves life event { life with state := .running, flags } []
  | finishes (result : GameMatchResult) (hstate : life.state = .bindingUdp ∨
        life.state = .synchronizing ∨ life.state = .running) (hevent : ¬ event.stops) :
      Moves life event { life with
        state := .finished
        udpOpen := false
        matchResult := some result } [.resultStored result]
  | lost (flags : SessionFlags) (hflags : flags.Within life.flags)
      (hfinished : life.state ≠ .finished) (herror : life.state ≠ .protocolError)
      (hrank : 2 ≤ life.state.rank) (hopen : life.udpOpen = false) (hevent : ¬ event.stops) :
      Moves life event { life with state := .closed, flags } []
  | stops (flags : SessionFlags) (hflags : flags.Within life.flags)
      (hstop : life.stopRequested = false) (hevent : event.stops) :
      Moves life event { life with
        state := .closed
        stopRequested := true
        udpOpen := false
        flags } []
  | stopsLater (hstop : life.stopRequested = false) (hevent : event.stops) :
      Moves life event { life with
        state := .closed
        stopRequested := true
        closing := life.closing + 1 } []
  | stopped (hstop : life.stopRequested = true) (hevent : event.stops) :
      Moves life event life []
  | closes (flags : SessionFlags) (hflags : flags.Within life.flags) (closing : Nat)
      (hevent : ¬ event.stops) :
      Moves life event { life with udpOpen := false, closing, flags } []

/-- How far the session has come for what it has. -/
structure Reached (life : LifeCycle) : Prop where
  opened : life.udpOpen = true → 3 ≤ life.state.rank
  resolving : 0 < life.flags.resolving → 3 ≤ life.state.rank
  attached : life.flags.tcpOpen = true → 2 ≤ life.state.rank
  queued : life.flags.queued = true → 4 ≤ life.state.rank

/-- What holds of every life cycle. -/
structure Sound (life : LifeCycle) : Prop extends Reached life where
  stopped : life.stopRequested = true → life.state = .closed
  finished : life.state = .finished → life.matchResult.isSome = true
  result : life.matchResult.isSome = true → life.state.terminal
  quiet : life.state.terminal → life.closing = 0 → life.udpOpen = false
  single : life.flags.opening ≤ 1
  opening : 0 < life.flags.opening → life.stopRequested = false → life.state = .connecting

/-- What a move may change. -/
structure Forward (life : LifeCycle) (event : SessionEvent) (next : LifeCycle)
    (outputs : List SessionOutput) : Prop where
  rank : life.state.rank ≤ next.state.rank
  absorbing : life.state.terminal → next.state = life.state ∨ event.stops
  stops : event.stops → next.state = .closed
  stopped : life.stopRequested = true → next.stopRequested = true ∧ next.state = .closed
  kept : life.matchResult.isSome = true → next.matchResult = life.matchResult
  stored : ∀ result, .resultStored result ∈ outputs →
    life.matchResult = none ∧ outputs = [.resultStored result] ∧
      next.matchResult = some result
  quiet : life.state.terminal → life.closing = 0 → outputs = []

section Moves

variable {life next : LifeCycle} {event : SessionEvent} {outputs : List SessionOutput}

theorem Sound.not_stopped (h : life.Sound) (hclosed : life.state ≠ .closed) :
    life.stopRequested = false :=
  Bool.eq_false_iff.mpr fun hstop => hclosed (h.stopped hstop)

theorem Sound.no_result (h : life.Sound) (hlive : ¬ life.state.terminal) :
    life.matchResult.isSome ≠ true :=
  fun hsome => hlive (h.result hsome)

/-- A session with an operation towards the connection in flight is connecting. -/
theorem Sound.connecting (h : life.Sound) {count : Nat} (hopening : count < life.flags.opening)
    (hstop : life.stopRequested = false) : life.state = .connecting :=
  h.opening (by omega) hstop

theorem Sound.no_opening (h : life.Sound) (hclosed : life.state ≠ .closed)
    (hrank : 2 ≤ life.state.rank) : life.flags.opening = 0 := by
  by_contra hne
  have hstate := h.opening (Nat.pos_of_ne_zero hne) (h.not_stopped hclosed)
  rw [hstate] at hrank
  exact absurd hrank (by decide)

/-- A session that has moved on has come as far as what it had needs. -/
theorem Reached.later (h : life.Reached) (state : GameSessionState)
    (hrank : life.state.rank ≤ state.rank) : { life with state }.Reached where
  opened hopened := (h.opened hopened).trans hrank
  resolving hpos := (h.resolving hpos).trans hrank
  attached hattached := (h.attached hattached).trans hrank
  queued hqueued := (h.queued hqueued).trans hrank

/-- A move that only takes away leaves the session as far as it has come. -/
theorem Reached.mono (h : life.Reached) (hrank : life.state.rank ≤ next.state.rank)
    (hopen : next.udpOpen = true → life.udpOpen = true)
    (hflags : next.flags.Within life.flags) : next.Reached where
  opened hopened := (h.opened (hopen hopened)).trans hrank
  resolving hpos := (h.resolving (Nat.lt_of_lt_of_le hpos hflags.resolving)).trans hrank
  attached hattached := (h.attached (hflags.tcpOpen hattached)).trans hrank
  queued hqueued := (h.queued (hflags.queued hqueued)).trans hrank

theorem Sound.not_stopped_of_live (h : life.Sound) (hlive : ¬ life.state.terminal) :
    life.stopRequested = false :=
  h.not_stopped fun hclosed => hlive (.inr (.inr hclosed))

/-! ### What a move changes -/

/-- A session that is not over moves on. -/
theorem Sound.forward (h : life.Sound) (hlive : ¬ life.state.terminal)
    (hevent : ¬ event.stops) (hrank : life.state.rank ≤ next.state.rank)
    (hresult : next.matchResult = life.matchResult) : life.Forward event next [] where
  rank := hrank
  absorbing hterminal := absurd hterminal hlive
  stops hstops := absurd hstops hevent
  stopped hstop := absurd ((h.not_stopped_of_live hlive).symm.trans hstop) (by decide)
  kept _ := hresult
  stored := nofun
  quiet _ _ := rfl

/-- A move from one state to another. -/
theorem Sound.forward_from (h : life.Sound) (state reached : GameSessionState)
    (hstate : life.state = state) (hlive : ¬ state.terminal) (hnext : next.state = reached)
    (hrank : state.rank ≤ reached.rank) (hevent : ¬ event.stops)
    (hresult : next.matchResult = life.matchResult) : life.Forward event next [] := by
  refine h.forward ?_ hevent ?_ hresult
  · rw [hstate]
    exact hlive
  · rw [hstate, hnext]
    exact hrank

/-- A move that keeps the state. -/
theorem Sound.forward_same (h : life.Sound) (hevent : ¬ event.stops)
    (hstate : next.state = life.state) (hstop : next.stopRequested = life.stopRequested)
    (hresult : next.matchResult = life.matchResult) : life.Forward event next [] where
  rank := hstate ▸ le_rfl
  absorbing _ := .inl hstate
  stops hstops := absurd hstops hevent
  stopped hstopped := ⟨hstop.trans hstopped, hstate.trans (h.stopped hstopped)⟩
  kept _ := hresult
  stored := nofun
  quiet _ _ := rfl

theorem Moves.forward (h : life.Sound) (hmoves : life.Moves event next outputs) :
    life.Forward event next outputs := by
  cases hmoves with
  | stays flags hflags hevent => exact h.forward_same hevent rfl rfl rfl
  | sends datagram hopen hevent =>
    exact {
      h.forward_same hevent rfl rfl rfl with
      stored := fun result hmem => nomatch List.mem_singleton.mp hmem
      quiet := fun hterminal hclosing =>
        absurd ((h.quiet hterminal hclosing).symm.trans hopen) (by decide) }
  | receives hrank hevent => exact h.forward_same hevent rfl rfl rfl
  | starts hidle hevent =>
    exact h.forward_from .idle .connecting hidle (by decide) rfl (by decide) hevent rfl
  | unreachable flags hflags hstop hopening hevent =>
    exact h.forward_from .connecting .closed (h.connecting hopening hstop) (by decide) rfl
      (by decide) hevent rfl
  | attaches flags hflags hstop hopening hevent =>
    exact h.forward_from .connecting .authenticating (h.connecting hopening hstop) (by decide)
      rfl (by decide) hevent rfl
  | fails flags hflags hrank hfinished hclosed hevent =>
    exact {
      rank := GameSessionState.rank_le _
      absorbing := by
        rintro (hstate | hstate | hstate)
        · exact absurd hstate hfinished
        · exact .inl hstate.symm
        · exact absurd hstate hclosed
      stops := fun hstops => absurd hstops hevent
      stopped := fun hstop => absurd (h.stopped hstop) hclosed
      kept := fun _ => rfl
      stored := nofun
      quiet := fun _ _ => rfl }
  | failsFromCaller flags hflags hrank hlive hevent =>
    exact h.forward hlive hevent (GameSessionState.rank_le _) rfl
  | welcomed hstate hevent =>
    exact h.forward_from .authenticating .bindingUdp hstate (by decide) rfl (by decide) hevent rfl
  | resolved flags hflags outputs hresolving hlive hstored hevent =>
    have hforward : life.Forward event { life with udpOpen := true, flags } [] :=
      h.forward hlive hevent le_rfl rfl
    exact {
      hforward with
      stored := fun result hmem => absurd hmem (hstored result)
      quiet := fun hterminal _ => absurd hterminal hlive }
  | bound flags hflags hstate hevent =>
    exact h.forward_from .bindingUdp .synchronizing hstate (by decide) rfl (by decide) hevent rfl
  | runs flags hflags hstate hevent =>
    exact h.forward_from .synchronizing .running hstate (by decide) rfl (by decide) hevent rfl
  | finishes result hstate hevent =>
    have hlive : ¬ life.state.terminal := by
      rcases hstate with hstate | hstate | hstate
      · rw [hstate]
        decide
      · rw [hstate]
        decide
      · rw [hstate]
        decide
    have hnone := Option.not_isSome_iff_eq_none.mp (h.no_result hlive)
    exact {
      rank := GameSessionState.rank_le _
      absorbing := fun hterminal => absurd hterminal hlive
      stops := fun hstops => absurd hstops hevent
      stopped := fun hstop => absurd ((h.not_stopped_of_live hlive).symm.trans hstop) (by decide)
      kept := fun hsome => absurd hsome (h.no_result hlive)
      stored := fun other hmem => by
        obtain rfl := SessionOutput.resultStored.inj (List.mem_singleton.mp hmem)
        exact ⟨hnone, rfl, rfl⟩
      quiet := fun hterminal _ => absurd hterminal hlive }
  | lost flags hflags hfinished herror hrank hopen hevent =>
    exact {
      rank := GameSessionState.rank_le _
      absorbing := by
        rintro (hstate | hstate | hstate)
        · exact absurd hstate hfinished
        · exact absurd hstate herror
        · exact .inl hstate.symm
      stops := fun hstops => absurd hstops hevent
      stopped := fun hstop => ⟨hstop, rfl⟩
      kept := fun _ => rfl
      stored := nofun
      quiet := fun _ _ => rfl }
  | stops flags hflags hstop hevent =>
    exact ⟨GameSessionState.rank_le _, fun _ => .inr hevent, fun _ => rfl, fun _ => ⟨rfl, rfl⟩,
      fun _ => rfl, nofun, fun _ _ => rfl⟩
  | stopsLater hstop hevent =>
    exact ⟨GameSessionState.rank_le _, fun _ => .inr hevent, fun _ => rfl, fun _ => ⟨rfl, rfl⟩,
      fun _ => rfl, nofun, fun _ _ => rfl⟩
  | stopped hstop hevent =>
    have hclosed := h.stopped hstop
    exact ⟨le_rfl, fun _ => .inr hevent, fun _ => hclosed, fun _ => ⟨hstop, hclosed⟩,
      fun _ => rfl, nofun, fun _ _ => rfl⟩
  | closes flags hflags closing hevent => exact h.forward_same hevent rfl rfl rfl

/-! ### Every move keeps the life cycle sound -/

/-- A move of a session that is not stopped to a state that is not terminal. -/
theorem Sound.moves_live (h : life.Sound) (hreached : next.Reached)
    (hlive : ¬ life.state.terminal) (hnext : ¬ next.state.terminal)
    (hstop : next.stopRequested = false) (hresult : next.matchResult = life.matchResult)
    (hsingle : next.flags.opening ≤ 1)
    (hopening : 0 < next.flags.opening → next.state = .connecting) : next.Sound where
  toReached := hreached
  stopped hstopped := absurd (hstop.symm.trans hstopped) (by decide)
  finished hfinished := absurd (.inl hfinished) hnext
  result hsome := absurd (hresult ▸ hsome) (h.no_result hlive)
  quiet hterminal := absurd hterminal hnext
  single := hsingle
  opening hpos _ := hopening hpos

/-- A session that is over has come as far as anything needs. -/
theorem Reached.of_terminal (hterminal : next.state.terminal) : next.Reached := by
  have hrank := (GameSessionState.terminal_iff _).mp hterminal
  constructor
  all_goals
    intro _
    omega

/-- A move to an end of the session. -/
theorem Sound.moves_over (hterminal : next.state.terminal)
    (hstopped : next.stopRequested = true → next.state = .closed)
    (hfinished : next.state = .finished → next.matchResult.isSome = true)
    (hquiet : next.closing = 0 → next.udpOpen = false) (hsingle : next.flags.opening ≤ 1)
    (hopening : 0 < next.flags.opening → next.stopRequested = true) : next.Sound where
  toReached := .of_terminal hterminal
  stopped := hstopped
  finished := hfinished
  result _ := hterminal
  quiet _ := hquiet
  single := hsingle
  opening hpos hstop := absurd ((hopening hpos).symm.trans hstop) (by decide)

theorem Moves.sound (h : life.Sound) (hmoves : life.Moves event next outputs) :
    next.Sound := by
  have hrank := (hmoves.forward h).rank
  have hsingle := h.single
  cases hmoves with
  | stays flags hflags hevent =>
    exact {
      h with
      toReached := h.toReached.mono hrank id hflags
      single := hflags.opening.trans hsingle
      opening := fun hpos => h.opening (Nat.lt_of_lt_of_le hpos hflags.opening) }
  | sends datagram hopen hevent => exact h
  | receives hstate hevent =>
    exact { h with toReached := { h.toReached with queued := fun _ => hstate } }
  | starts hidle hevent =>
    have hnone : life.flags.opening = 0 := by
      by_contra hne
      have hstate := h.opening (Nat.pos_of_ne_zero hne) (h.not_stopped (hidle ▸ by decide))
      exact nomatch hidle.symm.trans hstate
    have hreached := h.toReached.later .connecting hrank
    refine h.moves_live ⟨hreached.opened, hreached.resolving, hreached.attached,
      hreached.queued⟩ (hidle ▸ by decide) nofun rfl rfl ?_ fun _ => rfl
    show life.flags.opening + 1 ≤ 1
    omega
  | unreachable flags hflags hstop hopening hevent =>
    have hstate := h.connecting hopening hstop
    have hnone : flags.opening = 0 := by omega
    refine Sound.moves_over (.inr (.inr rfl)) (fun _ => rfl) nofun (fun _ => ?_)
      (hflags.opening.trans hsingle) (fun hpos => ?_)
    · refine Bool.eq_false_iff.mpr fun hopen => ?_
      have hlow := h.opened hopen
      rw [hstate] at hlow
      exact absurd hlow (by decide)
    · exact absurd hnone (Nat.ne_of_gt hpos)
  | attaches flags hflags hstop hopening hevent =>
    have hstate := h.connecting hopening hstop
    have hnone : flags.opening = 0 := by omega
    have hreached : Reached { life with state := .authenticating, flags } :=
      h.toReached.mono hrank id hflags
    refine h.moves_live ⟨hreached.opened, hreached.resolving, fun _ => le_rfl,
      hreached.queued⟩ (hstate ▸ by decide) nofun hstop rfl (hflags.opening.trans hsingle)
      (fun hpos => ?_)
    exact absurd hnone (Nat.ne_of_gt hpos)
  | fails flags hflags hstate hfinished hclosed hevent =>
    have hnone : flags.opening = 0 := by
      rcases hstate with hstate | hless
      · have hzero := h.no_opening hclosed hstate
        have hle : flags.opening ≤ life.flags.opening := hflags.opening
        omega
      · omega
    refine Sound.moves_over (.inr (.inl rfl)) (fun hstop => absurd (h.stopped hstop) hclosed)
      nofun (fun _ => rfl) (hflags.opening.trans hsingle) (fun hpos => ?_)
    exact absurd hnone (Nat.ne_of_gt hpos)
  | failsFromCaller flags hflags hstate hlive hevent =>
    have hclosed : life.state ≠ .closed := fun hclosed => hlive (.inr (.inr hclosed))
    have hzero := h.no_opening hclosed (by omega)
    have hle := hflags.opening
    refine Sound.moves_over (.inr (.inl rfl)) (fun hstop => absurd (h.stopped hstop) hclosed)
      nofun nofun (hflags.opening.trans hsingle) (fun hpos => ?_)
    have hpos' : 0 < flags.opening := hpos
    omega
  | welcomed hstate hevent =>
    have hzero := h.no_opening (hstate ▸ by decide) (hstate ▸ by decide)
    have hreached := h.toReached.later .bindingUdp hrank
    refine h.moves_live ⟨hreached.opened, fun _ => le_rfl, hreached.attached, hreached.queued⟩
      (hstate ▸ by decide) nofun (h.not_stopped (hstate ▸ by decide)) rfl hsingle
      (fun hpos => ?_)
    exact absurd hzero (Nat.ne_of_gt hpos)
  | resolved flags hflags outputs hresolving hlive hstored hevent =>
    have hstop := h.not_stopped_of_live hlive
    have hreached : Reached { life with flags } := h.toReached.mono le_rfl id hflags
    refine h.moves_live ⟨fun _ => h.resolving (by omega), hreached.resolving,
      hreached.attached, hreached.queued⟩ hlive hlive hstop rfl (hflags.opening.trans hsingle)
      (fun hpos => ?_)
    exact h.opening (Nat.lt_of_lt_of_le hpos hflags.opening) hstop
  | bound flags hflags hstate hevent =>
    have hzero := h.no_opening (hstate ▸ by decide) (hstate ▸ by decide)
    have hle := hflags.opening
    refine h.moves_live (h.toReached.mono hrank id hflags) (hstate ▸ by decide) nofun
      (h.not_stopped (hstate ▸ by decide)) rfl (hflags.opening.trans hsingle) (fun hpos => ?_)
    have hpos' : 0 < flags.opening := hpos
    omega
  | runs flags hflags hstate hevent =>
    have hzero := h.no_opening (hstate ▸ by decide) (hstate ▸ by decide)
    have hle := hflags.opening
    refine h.moves_live (h.toReached.mono hrank id hflags) (hstate ▸ by decide) nofun
      (h.not_stopped (hstate ▸ by decide)) rfl (hflags.opening.trans hsingle) (fun hpos => ?_)
    have hpos' : 0 < flags.opening := hpos
    omega
  | finishes result hstate hevent =>
    have hclosed : life.state ≠ .closed := by
      rcases hstate with hstate | hstate | hstate
      · exact hstate ▸ by decide
      · exact hstate ▸ by decide
      · exact hstate ▸ by decide
    have hlow : 2 ≤ life.state.rank := by
      rcases hstate with hstate | hstate | hstate
      · exact hstate ▸ by decide
      · exact hstate ▸ by decide
      · exact hstate ▸ by decide
    have hzero := h.no_opening hclosed hlow
    refine Sound.moves_over (.inl rfl) (fun hstop => absurd (h.stopped hstop) hclosed)
      (fun _ => rfl) (fun _ => rfl) hsingle (fun hpos => ?_)
    exact absurd hzero (Nat.ne_of_gt hpos)
  | lost flags hflags hfinished herror hstate hopen hevent =>
    refine Sound.moves_over (.inr (.inr rfl)) (fun _ => rfl) nofun (fun _ => hopen)
      (hflags.opening.trans hsingle) (fun hpos => ?_)
    cases hstop : life.stopRequested with
    | true => rfl
    | false =>
      have hconnecting := h.opening (Nat.lt_of_lt_of_le hpos hflags.opening) hstop
      rw [hconnecting] at hstate
      exact absurd hstate (by decide)
  | stops flags hflags hstop hevent =>
    exact Sound.moves_over (.inr (.inr rfl)) (fun _ => rfl) nofun (fun _ => rfl)
      (hflags.opening.trans hsingle) (fun _ => rfl)
  | stopsLater hstop hevent =>
    exact Sound.moves_over (.inr (.inr rfl)) (fun _ => rfl) nofun nofun hsingle (fun _ => rfl)
  | stopped hstop hevent => exact h
  | closes flags hflags closing hevent =>
    exact {
      h with
      toReached := h.toReached.mono hrank nofun hflags
      quiet := fun _ _ => rfl
      single := hflags.opening.trans hsingle
      opening := fun hpos => h.opening (Nat.lt_of_lt_of_le hpos hflags.opening) }

end Moves

end LifeCycle

/-! ## The session moves as its life cycle says -/

namespace GameSession

open LifeCycle

def lifeCycle (session : GameSession) : LifeCycle where
  state := session.state
  stopRequested := session.stopRequested
  udpOpen := session.udpOpen
  matchResult := session.matchResult
  closing := session.operations.closeNetwork
  flags :=
    { tcpOpen := session.tcpOpen || 0 < session.operations.tcpClosed
      queued := !session.snapshotQueue.isEmpty
      opening := session.operations.resolveTcp + session.operations.tcpResolve +
        session.operations.connect
      resolving := session.operations.udpResolve }

/-- No handler comes too late: no frame after the result or the stop, no addresses and no end
of the connection that find the session over or the socket open. -/
def Orderly (session : GameSession) : SessionEvent → Prop
  | .tcpFrame _ => session.tcpOpen = true →
      session.state ≠ .finished ∧ session.state ≠ .closed
  | .udpResolved found _ => 0 < session.operations.udpResolve →
      session.stopRequested = false →
      if found then ¬ session.state.terminal
      else session.state ≠ .finished ∧ session.state ≠ .closed
  | .tcpClosed => 0 < session.operations.tcpClosed → session.stopRequested = false →
      session.state ≠ .finished → session.state ≠ .protocolError → session.udpOpen = false
  | _ => True

section Functions

variable {session : GameSession}

theorem closeTcp_lifeCycle (session : GameSession) :
    session.closeTcp.lifeCycle = session.lifeCycle := by
  unfold closeTcp
  split
  next hopen =>
    unfold lifeCycle
    dsimp only
    rw [hopen]
    congr 2
  next => rfl

theorem closeNetwork_lifeCycle (session : GameSession) :
    session.closeNetwork.lifeCycle = { session.lifeCycle with udpOpen := false } := by
  rw [← closeTcp_lifeCycle session]
  rfl

theorem failProtocol_lifeCycle (session : GameSession) :
    session.failProtocol.lifeCycle =
      { session.lifeCycle with state := .protocolError, udpOpen := false } :=
  closeNetwork_lifeCycle _

theorem deliver_cases (session : GameSession) (datagram : ClientDatagram) :
    session.deliver datagram = [] ∨
      session.udpOpen = true ∧ session.deliver datagram = [.sent datagram] := by
  unfold deliver
  split
  · exact .inl rfl
  next hopen =>
    rw [Bool.or_eq_true, not_or] at hopen
    refine .inr ⟨?_, rfl⟩
    cases hudp : session.udpOpen with
    | true => rfl
    | false => exact absurd (by rw [hudp]; rfl) hopen.2

/-- A datagram changes nothing of the life cycle, and may be sent, or fails the session. -/
inductive Sends (session : GameSession) : SessionStep → Prop where
  | quiet (after : GameSession) (hafter : after.lifeCycle = session.lifeCycle) :
      Sends session (after, [])
  | sent (after : GameSession) (datagram : ClientDatagram)
      (hafter : after.lifeCycle = session.lifeCycle) (hopen : session.udpOpen = true) :
      Sends session (after, [.sent datagram])
  | failed (after : GameSession)
      (hafter : after.lifeCycle =
        { session.lifeCycle with state := .protocolError, udpOpen := false }) :
      Sends session (after, [])

theorem sendUdp_sends (session : GameSession) (datagram : ClientDatagram)
    (result : UdpDatagramEnqueueResult) : Sends session (session.sendUdp datagram result) := by
  unfold sendUdp
  split
  · exact .failed _ (failProtocol_lifeCycle session)
  · cases result with
    | sentImmediately =>
      rcases deliver_cases session datagram with hnone | ⟨hopen, hsent⟩
      · dsimp only
        rw [hnone]
        exact .quiet session rfl
      · dsimp only
        rw [hsent]
        exact .sent session datagram rfl hopen
    | queued => exact .quiet _ rfl
    | dropped => exact .quiet _ rfl
    | overflow => exact .failed _ (failProtocol_lifeCycle session)

theorem sendBind_sends (session : GameSession) (result : UdpDatagramEnqueueResult) :
    session.sendBind result = (session, []) ∨
      session.state = .bindingUdp ∧ Sends session (session.sendBind result) := by
  unfold sendBind
  split
  next => exact .inl rfl
  next hstate =>
    rw [Bool.or_eq_true, not_or, decide_eq_true_eq, not_not] at hstate
    split
    next start token hstart htoken =>
      refine .inr ⟨hstate.2, ?_⟩
      have hsends := sendUdp_sends session (.bind {
        matchId := start.ticket.matchId
        player := start.player
        token }) result
      dsimp only
      generalize session.sendUdp _ result = sent at hsends ⊢
      cases hsends with
      | quiet after hafter => exact .quiet _ hafter
      | sent after datagram hafter hopen => exact .sent _ datagram hafter hopen
      | failed after hafter => exact .failed _ hafter
    next => exact .inl rfl

/-- A datagram of the server changes nothing of the life cycle, queues a snapshot, ends the
binding or fails the session. -/
inductive Receives (session : GameSession) : GameSession → Prop where
  | quiet (after : GameSession) (hafter : after.lifeCycle = session.lifeCycle) :
      Receives session after
  | bound (after : GameSession) (hstate : session.state = .bindingUdp)
      (hafter : after.lifeCycle = { session.lifeCycle with state := .synchronizing }) :
      Receives session after
  | queued (after : GameSession) (hrank : 4 ≤ session.state.rank)
      (hafter : after.lifeCycle =
        { session.lifeCycle with flags := { session.lifeCycle.flags with queued := true } }) :
      Receives session after
  | failed (after : GameSession) (hrank : 4 ≤ session.state.rank)
      (hlive : ¬ session.state.terminal)
      (hafter : after.lifeCycle =
        { session.lifeCycle with state := .protocolError, udpOpen := false }) :
      Receives session after

theorem settleKeyframe_lifeCycle (session : GameSession) (applied : SnapshotApplyResult)
    (kind : SnapshotPayloadKind) :
    (session.settleKeyframe applied kind).lifeCycle = session.lifeCycle := by
  unfold settleKeyframe
  dsimp only
  split
  · rfl
  · split
    · rfl
    · rfl

theorem queueSnapshot_lifeCycle (session : GameSession) (snapshot : ReassembledSnapshot) :
    (session.queueSnapshot snapshot).lifeCycle =
      { session.lifeCycle with flags := { session.lifeCycle.flags with queued := true } } := by
  have hqueued : (!(session.queueSnapshot snapshot).snapshotQueue.isEmpty) = true := by
    rw [Bool.not_eq_true', List.isEmpty_eq_false_iff]
    exact List.append_ne_nil_of_right_ne_nil _ (List.cons_ne_nil _ _)
  unfold lifeCycle
  rw [hqueued]
  rfl

theorem pushFragment_lifeCycle (session : GameSession) (fragment : SnapshotFragment) :
    (session.pushFragment fragment).1.lifeCycle = session.lifeCycle := by
  unfold pushFragment
  dsimp only
  split
  · rfl
  · rfl

theorem applyPayload_receives {session : GameSession} (hrank : 4 ≤ session.state.rank)
    (hlive : ¬ session.state.terminal) (completed : ReassembledPayload) :
    Receives session (session.applyPayload completed) := by
  unfold applyPayload
  split
  · exact .failed _ hrank hlive (failProtocol_lifeCycle session)
  · dsimp only
    split
    · exact .failed _ hrank hlive (failProtocol_lifeCycle _)
    · split
      · exact .quiet _ (settleKeyframe_lifeCycle _ _ _)
      · refine .queued _ hrank ?_
        rw [queueSnapshot_lifeCycle, settleKeyframe_lifeCycle]
        rfl

theorem handleFragment_receives (session : GameSession) (start : GameSessionStart)
    (fragment : SnapshotFragment) : Receives session (session.handleFragment start fragment) := by
  unfold handleFragment
  split
  next => exact .quiet _ rfl
  next hstate =>
    have hstates : session.state = .synchronizing ∨ session.state = .running := by
      by_contra hneither
      rw [not_or] at hneither
      exact hstate hneither
    have hpast : 4 ≤ session.state.rank ∧ ¬ session.state.terminal := by
      rcases hstates with h | h
      · exact h ▸ by decide
      · exact h ▸ by decide
    have hsame := pushFragment_lifeCycle session fragment
    have hstate' : (session.pushFragment fragment).1.state = session.state :=
      congrArg LifeCycle.state hsame
    split
    · exact .quiet _ rfl
    · dsimp only
      split
      · exact .quiet _ hsame
      next completed _ =>
        have happlied := applyPayload_receives (hstate' ▸ hpast.1) (hstate' ▸ hpast.2) completed
        cases happlied with
        | quiet hafter => exact .quiet _ (hafter.trans hsame)
        | bound hbinding hafter =>
          rw [hstate'] at hbinding
          rw [hbinding] at hpast
          exact absurd hpast.1 (by decide)
        | queued hlate hafter => exact .queued _ hpast.1 (by rw [hafter, hsame])
        | failed hlate hlive hafter =>
          exact .failed _ hpast.1 hpast.2 (by rw [hafter, hsame])

theorem handleServerDatagram_receives (session : GameSession) (datagram : ServerDatagram) :
    Receives session (session.handleServerDatagram datagram) := by
  unfold handleServerDatagram
  split
  next start accepted _ =>
    unfold handleBindAccepted
    split
    · exact .quiet _ rfl
    next hstate =>
      rw [Bool.or_eq_true, Bool.or_eq_true, not_or, not_or, decide_eq_true_eq,
        not_not] at hstate
      exact .bound _ hstate.1.1 rfl
  next start fragment _ => exact handleFragment_receives session start fragment
  next => exact .quiet _ rfl

/-! ### The frames of the game thread -/

/-- The snapshots of a frame change nothing of the life cycle, let a synchronizing session
run, or fail it. -/
inductive Frames (session : GameSession) (snapshots : List ReassembledSnapshot) :
    GameSession × Option Bool → Prop where
  | same (after : GameSession) (outcome : Option Bool)
      (hafter : after.lifeCycle = session.lifeCycle) : Frames session snapshots (after, outcome)
  | ran (after : GameSession) (outcome : Option Bool) (hstate : session.state = .synchronizing)
      (hafter : after.lifeCycle = { session.lifeCycle with state := .running }) :
      Frames session snapshots (after, outcome)
  | failed (after : GameSession) (hsnapshots : snapshots ≠ [])
      (hafter : after.lifeCycle = { session.lifeCycle with
        state := .protocolError
        closing := session.lifeCycle.closing + 1 }) :
      Frames session snapshots (after, none)

theorem failFromCaller_lifeCycle (session : GameSession) :
    session.failFromCaller.lifeCycle = { session.lifeCycle with
      state := .protocolError
      closing := session.lifeCycle.closing + 1 } :=
  rfl

theorem reconcile_lifeCycle (session : GameSession) (position : Vec2 Float32)
    (ackInputSequence : UInt32) :
    (session.reconcile position ackInputSequence).1.lifeCycle = session.lifeCycle := by
  unfold reconcile
  split
  · rfl
  · rfl

/-- The predictor is there, or a synchronizing session now runs, or the frame ends. -/
theorem ensurePredictor_cases (session : GameSession) (becameRunning : Bool)
    (position : Vec2 Float32) :
    (session.ensurePredictor becameRunning position).1.lifeCycle = session.lifeCycle ∨
      session.state = .synchronizing ∧
        (session.ensurePredictor becameRunning position).1.lifeCycle =
          { session.lifeCycle with state := .running } := by
  unfold ensurePredictor
  split
  · exact .inl rfl
  · cases ClientPredictor.create session.navMesh position
        (defaultMatchConfig (R := Float32)).contenderSpeed 0.1 with
    | error exception => exact .inl rfl
    | ok predictor =>
      dsimp only [attempt]
      split
      next hstate => exact .inr ⟨hstate, rfl⟩
      next =>
        split
        · exact .inl rfl
        · exact .inl rfl

/-- Steps of a frame one after the other. -/
theorem Frames.after {session next : GameSession} {snapshots : List ReassembledSnapshot}
    {final : GameSession × Option Bool} (later : List ReassembledSnapshot)
    (hnext : next.lifeCycle = session.lifeCycle ∨ session.state = .synchronizing ∧
      next.lifeCycle = { session.lifeCycle with state := .running })
    (hsnapshots : snapshots ≠ []) (hframes : Frames next later final) :
    Frames session snapshots final := by
  rcases hnext with hsame | ⟨hstate, hran⟩
  · cases hframes with
    | same after outcome hafter => exact .same _ _ (hafter.trans hsame)
    | ran after outcome hnext hafter =>
      have hstate : session.state = .synchronizing :=
        (congrArg LifeCycle.state hsame).symm.trans hnext
      exact .ran _ _ hstate (by rw [hafter, hsame])
    | failed after _ hafter => exact .failed _ hsnapshots (by rw [hafter, hsame])
  · cases hframes with
    | same after outcome hafter => exact .ran _ _ hstate (hafter.trans hran)
    | ran after outcome hnext hafter =>
      have hrunning : next.state = .running := congrArg LifeCycle.state hran
      exact nomatch hrunning.symm.trans hnext
    | failed after _ hafter => exact .failed _ hsnapshots (by rw [hafter, hran])

theorem applySnapshots_frames (snapshots : List ReassembledSnapshot) (session : GameSession)
    (becameRunning : Bool) :
    Frames session snapshots (session.applySnapshots becameRunning snapshots) := by
  induction snapshots generalizing session becameRunning with
  | nil => exact .same _ _ rfl
  | cons snapshot snapshots ih =>
    have hne : snapshot :: snapshots ≠ [] := List.cons_ne_nil _ _
    unfold applySnapshots
    split
    · exact Frames.after snapshots (.inl rfl) hne (ih session becameRunning)
    next local' _ =>
      dsimp only
      have hensured := ensurePredictor_cases session becameRunning
        ⟨local'.position.x, local'.position.z⟩
      split
      · exact Frames.after (snapshot :: snapshots) hensured hne
          (.failed _ hne (failFromCaller_lifeCycle _))
      · exact Frames.after [] hensured hne (.same _ _ rfl)
      next becameRunning' _ =>
        refine Frames.after (snapshot :: snapshots) hensured hne ?_
        have hreconciled := reconcile_lifeCycle
          (session.ensurePredictor becameRunning ⟨local'.position.x, local'.position.z⟩).1
          ⟨local'.position.x, local'.position.z⟩ snapshot.ackInputSequence
        split
        · exact Frames.after (snapshot :: snapshots) (.inl hreconciled) hne
            (.failed _ hne (failFromCaller_lifeCycle _))
        · exact Frames.after snapshots (.inl hreconciled) hne (ih _ _)

theorem postInput_cases (session : GameSession) :
    session.postInput.lifeCycle = session.lifeCycle ∨
      session.postInput.lifeCycle = { session.lifeCycle with
        state := .protocolError
        closing := session.lifeCycle.closing + 1 } := by
  unfold postInput
  split
  · exact .inl rfl
  · dsimp only
    split
    · exact .inr rfl
    · exact .inl rfl

/-! ### Every step is a move -/

variable {event : SessionEvent}

theorem moves_same {after : GameSession} (hafter : after.lifeCycle = session.lifeCycle)
    (hevent : ¬ event.stops) : session.lifeCycle.Moves event after.lifeCycle [] := by
  rw [hafter]
  exact .stays _ session.lifeCycle.flags.within_self hevent

theorem failProtocol_moves (hrank : 2 ≤ session.state.rank)
    (hfinished : session.state ≠ .finished) (hclosed : session.state ≠ .closed)
    (hevent : ¬ event.stops) :
    session.lifeCycle.Moves event session.failProtocol.lifeCycle [] := by
  rw [failProtocol_lifeCycle]
  exact .fails _ ⟨fun _ => rfl, id, le_rfl, le_rfl⟩ (.inl hrank) hfinished hclosed hevent

theorem startSession_moves (start : GameSessionStart) (hevent : ¬ event.stops) :
    session.lifeCycle.Moves event (session.startSession start).lifeCycle [] := by
  unfold startSession
  split
  · exact moves_same rfl hevent
  next hidle =>
    have hopening : session.operations.resolveTcp + 1 + session.operations.tcpResolve +
        session.operations.connect = session.lifeCycle.flags.opening + 1 := by
      show _ = session.operations.resolveTcp + session.operations.tcpResolve +
        session.operations.connect + 1
      omega
    unfold lifeCycle
    dsimp only
    rw [hopening]
    exact .starts (not_not.mp hidle) hevent

theorem setDestination_moves (destination : Vec2 Float32) (hevent : ¬ event.stops) :
    session.lifeCycle.Moves event (session.setDestination destination).lifeCycle [] := by
  unfold setDestination
  split
  · exact moves_same rfl hevent
  · split
    · exact moves_same rfl hevent
    · exact moves_same rfl hevent

theorem stop_moves (runtimeStarted runningOnNetworkThread : Bool) (hevent : event.stops) :
    session.lifeCycle.Moves event
      (session.stop runtimeStarted runningOnNetworkThread).lifeCycle [] := by
  unfold stop
  split
  next hstop => exact .stopped hstop hevent
  next hstop =>
    have hrunning : session.stopRequested = false := Bool.eq_false_iff.mpr hstop
    dsimp only
    split
    · rw [closeNetwork_lifeCycle]
      exact .stops session.lifeCycle.flags session.lifeCycle.flags.within_self hrunning hevent
    · exact .stopsLater hrunning hevent

theorem fixedUpdate_moves (h : session.lifeCycle.Sound) (hevent : ¬ event.stops) :
    session.lifeCycle.Moves event session.fixedUpdate.lifeCycle [] := by
  unfold fixedUpdate
  split
  · exact moves_same rfl hevent
  next hlive =>
    dsimp only
    have hempty : ({ session with snapshotQueue := [] } : GameSession).lifeCycle =
        { session.lifeCycle with flags := { session.lifeCycle.flags with queued := false } } :=
      rfl
    have hflags : SessionFlags.Within { session.lifeCycle.flags with queued := false }
        session.lifeCycle.flags := ⟨id, nofun, le_rfl, le_rfl⟩
    have hpending : session.snapshotQueue.insertionSort
        (fun left right => left.serverTick ≤ right.serverTick) ≠ [] →
        4 ≤ session.state.rank := by
      intro hne
      refine h.queued ?_
      show (!session.snapshotQueue.isEmpty) = true
      rw [Bool.not_eq_true', List.isEmpty_eq_false_iff]
      intro hnil
      rw [hnil] at hne
      exact hne rfl
    have hframes := applySnapshots_frames (session.snapshotQueue.insertionSort
      fun left right => left.serverTick ≤ right.serverTick)
      { session with snapshotQueue := [] } false
    generalize applySnapshots _ _ _ = final at hframes ⊢
    cases hframes with
    | same after outcome hafter =>
      rw [hempty] at hafter
      dsimp only
      split
      · rw [hafter]
        exact .stays _ hflags hevent
      · split
        next hrunning =>
          rw [Bool.and_eq_true, decide_eq_true_eq] at hrunning
          have hstate : session.state = .running :=
            (congrArg LifeCycle.state hafter).symm.trans hrunning.1
          rcases postInput_cases after with hpost | hpost
          · rw [hpost, hafter]
            exact .stays _ hflags hevent
          · rw [hpost, hafter]
            have hrank : 4 ≤ session.lifeCycle.state.rank := by
              show 4 ≤ session.state.rank
              exact hstate ▸ by decide
            exact .failsFromCaller _ hflags hrank hlive hevent
        next =>
          rw [hafter]
          exact .stays _ hflags hevent
    | ran after outcome hstate hafter =>
      rw [hempty] at hafter
      dsimp only
      split
      · rw [hafter]
        exact .runs _ hflags hstate hevent
      · split
        next =>
          rcases postInput_cases after with hpost | hpost
          · rw [hpost, hafter]
            exact .runs _ hflags hstate hevent
          · rw [hpost, hafter]
            have hrank : 4 ≤ session.lifeCycle.state.rank := by
              show 4 ≤ session.state.rank
              exact hstate ▸ by decide
            exact .failsFromCaller _ hflags hrank hlive hevent
        next =>
          rw [hafter]
          exact .runs _ hflags hstate hevent
    | failed after hsnapshots hafter =>
      rw [hempty] at hafter
      dsimp only
      rw [hafter]
      exact .failsFromCaller _ hflags (hpending hsnapshots) hlive hevent

theorem handleWelcome_moves (start : GameSessionStart) (welcome : GameServerWelcome)
    (hrank : 2 ≤ session.state.rank) (hfinished : session.state ≠ .finished)
    (hclosed : session.state ≠ .closed) (hevent : ¬ event.stops) :
    session.lifeCycle.Moves event (session.handleWelcome start welcome).lifeCycle [] := by
  unfold handleWelcome
  split
  · exact failProtocol_moves hrank hfinished hclosed hevent
  next hwelcome =>
    rw [Bool.or_eq_true, not_or, decide_eq_true_eq, not_not] at hwelcome
    exact .welcomed hwelcome.1 hevent

theorem handleResult_moves (start : GameSessionStart) (result : GameMatchResult)
    (hrank : 2 ≤ session.state.rank) (hfinished : session.state ≠ .finished)
    (hclosed : session.state ≠ .closed) (hevent : ¬ event.stops) :
    session.lifeCycle.Moves event (session.handleResult start result).1.lifeCycle
      (session.handleResult start result).2 := by
  unfold handleResult
  split
  · exact failProtocol_moves hrank hfinished hclosed hevent
  next hresult =>
    refine .finishes result ?_ hevent
    by_contra hneither
    rw [not_or, not_or] at hneither
    exact hresult (.inl hneither)

theorem handleTcpFrame_moves (message : Option GameServerMessage)
    (hrank : 2 ≤ session.state.rank) (hfinished : session.state ≠ .finished)
    (hclosed : session.state ≠ .closed) (hevent : ¬ event.stops) :
    session.lifeCycle.Moves event (session.handleTcpFrame message).1.lifeCycle
      (session.handleTcpFrame message).2 := by
  unfold handleTcpFrame
  split
  next start welcome _ => exact handleWelcome_moves start welcome hrank hfinished hclosed hevent
  next start result _ => exact handleResult_moves start result hrank hfinished hclosed hevent
  next => exact failProtocol_moves hrank hfinished hclosed hevent

/-! Handlers of operations that were in flight: `before` is the session without them. -/

section InFlight

variable {before : GameSession} {flags : SessionFlags}

theorem moves_within {after : GameSession}
    (hbefore : before.lifeCycle = { session.lifeCycle with flags })
    (hflags : flags.Within session.lifeCycle.flags)
    (hafter : after.lifeCycle = before.lifeCycle) (hevent : ¬ event.stops) :
    session.lifeCycle.Moves event after.lifeCycle [] := by
  rw [hafter, hbefore]
  exact .stays flags hflags hevent

theorem moves_unreachable (hbefore : before.lifeCycle = { session.lifeCycle with flags })
    (hflags : flags.Within session.lifeCycle.flags)
    (hopening : flags.opening < session.lifeCycle.flags.opening)
    (hstop : before.stopRequested = false) (hevent : ¬ event.stops) :
    session.lifeCycle.Moves event (before.setState .closed).lifeCycle [] := by
  have hafter : (before.setState .closed).lifeCycle =
      { before.lifeCycle with state := .closed } := rfl
  rw [hafter, hbefore]
  exact .unreachable flags hflags
    ((congrArg LifeCycle.stopRequested hbefore).symm.trans hstop) hopening hevent

theorem attachTcp_moves (helloQueued : Bool)
    (hbefore : before.lifeCycle = { session.lifeCycle with flags })
    (hflags : flags.Within session.lifeCycle.flags)
    (hopening : flags.opening < session.lifeCycle.flags.opening)
    (hstop : session.stopRequested = false) (hstate : session.state = .connecting)
    (hevent : ¬ event.stops) :
    session.lifeCycle.Moves event (before.attachTcp helloQueued).lifeCycle [] := by
  have hattached : ({ before with tcpOpen := true }.setState .authenticating).lifeCycle =
      { session.lifeCycle with
        state := .authenticating
        flags := { flags with tcpOpen := true } } := by
    have hopen : ({ before with tcpOpen := true }.setState .authenticating).lifeCycle =
        { before.lifeCycle with
          state := .authenticating
          flags := { before.lifeCycle.flags with tcpOpen := true } } := by
      unfold lifeCycle setState
      dsimp only
      rw [Bool.true_or]
    rw [hopen, hbefore]
  unfold attachTcp
  dsimp only
  split
  · rw [hattached]
    exact .attaches flags hflags hstop hopening hevent
  · rw [failProtocol_lifeCycle, closeTcp_lifeCycle, hattached]
    refine .fails _ ⟨fun _ => rfl, hflags.queued, hflags.opening, hflags.resolving⟩
      (.inr hopening) ?_ ?_ hevent
    · show session.state ≠ .finished
      exact hstate ▸ nofun
    · show session.state ≠ .closed
      exact hstate ▸ nofun

theorem handleUdpResolved_moves (h : session.lifeCycle.Sound) (found : Bool)
    (result : UdpDatagramEnqueueResult)
    (hbefore : before.lifeCycle = { session.lifeCycle with flags })
    (hflags : flags.Within session.lifeCycle.flags)
    (hresolving : flags.resolving < session.lifeCycle.flags.resolving)
    (hlive : session.stopRequested = false → if found then ¬ session.state.terminal
      else session.state ≠ .finished ∧ session.state ≠ .closed)
    (hevent : ¬ event.stops) :
    session.lifeCycle.Moves event (before.handleUdpResolved found result).1.lifeCycle
      (before.handleUdpResolved found result).2 := by
  have hstopped : before.stopRequested = session.stopRequested :=
    congrArg LifeCycle.stopRequested hbefore
  have hrank : 3 ≤ session.state.rank := h.resolving (by omega)
  have hwithin : flags.Within { session.lifeCycle.flags with tcpOpen := true } :=
    ⟨fun _ => rfl, hflags.queued, hflags.opening, hflags.resolving⟩
  unfold handleUdpResolved
  split
  · exact moves_within hbefore hflags rfl hevent
  next hstop =>
    have hlive := hlive (hstopped.symm.trans (Bool.eq_false_iff.mpr hstop))
    cases found with
    | false =>
      show session.lifeCycle.Moves event before.failProtocol.lifeCycle []
      rw [failProtocol_lifeCycle, hbefore]
      exact .fails flags hwithin (.inl (show 2 ≤ session.state.rank by omega)) hlive.1 hlive.2
        hevent
    | true =>
      have hopened : ({ before with udpOpen := true } : GameSession).receiveUdp.lifeCycle =
          { session.lifeCycle with udpOpen := true, flags } := by
        have hafter : ({ before with udpOpen := true } : GameSession).receiveUdp.lifeCycle =
            { before.lifeCycle with udpOpen := true } := rfl
        rw [hafter, hbefore]
      show session.lifeCycle.Moves event
        (({ before with udpOpen := true } : GameSession).receiveUdp.sendBind result).1.lifeCycle
        (({ before with udpOpen := true } : GameSession).receiveUdp.sendBind result).2
      generalize ({ before with udpOpen := true } : GameSession).receiveUdp = opened at hopened ⊢
      rcases sendBind_sends opened result with hnone | ⟨_, hsends⟩
      · rw [hnone]
        dsimp only
        rw [hopened]
        exact .resolved flags hflags [] hresolving hlive nofun hevent
      · generalize opened.sendBind result = sent at hsends ⊢
        cases hsends with
        | quiet after hafter =>
          dsimp only
          rw [hafter, hopened]
          exact .resolved flags hflags [] hresolving hlive nofun hevent
        | sent after datagram hafter hopen =>
          dsimp only
          rw [hafter, hopened]
          refine .resolved flags hflags _ hresolving hlive (fun other hmem => ?_) hevent
          exact nomatch List.mem_singleton.mp hmem
        | failed after hafter =>
          dsimp only
          rw [hafter, hopened]
          exact .fails flags hwithin (.inl (show 2 ≤ session.state.rank by omega))
            (fun hstate => hlive (.inl hstate)) (fun hstate => hlive (.inr (.inr hstate))) hevent

/-- A datagram of a session that is past the authentication and not over. -/
theorem Sends.moves {final : SessionStep} (hsends : Sends before final)
    (hbefore : before.lifeCycle = session.lifeCycle) (hrank : 2 ≤ session.state.rank)
    (hlive : ¬ session.state.terminal) (hevent : ¬ event.stops) :
    session.lifeCycle.Moves event final.1.lifeCycle final.2 := by
  cases hsends with
  | quiet after hafter => exact moves_same (hafter.trans hbefore) hevent
  | sent after datagram hafter hopen =>
    dsimp only
    rw [hafter, hbefore]
    exact .sends datagram ((congrArg LifeCycle.udpOpen hbefore).symm.trans hopen) hevent
  | failed after hafter =>
    dsimp only
    rw [hafter, hbefore]
    exact .fails _ ⟨fun _ => rfl, id, le_rfl, le_rfl⟩ (.inl hrank)
      (fun hstate => hlive (.inl hstate)) (fun hstate => hlive (.inr (.inr hstate))) hevent

theorem handleBindWait_moves (error : Bool) (result : UdpDatagramEnqueueResult)
    (hbefore : before.lifeCycle = session.lifeCycle) (hevent : ¬ event.stops) :
    session.lifeCycle.Moves event (before.handleBindWait error result).1.lifeCycle
      (before.handleBindWait error result).2 := by
  unfold handleBindWait
  split
  · exact moves_same hbefore hevent
  · rcases sendBind_sends before result with hnone | ⟨hstate, hsends⟩
    · rw [hnone]
      exact moves_same hbefore hevent
    · have hbinding : session.state = .bindingUdp :=
        (congrArg LifeCycle.state hbefore).symm.trans hstate
      exact hsends.moves hbefore (hbinding ▸ by decide) (hbinding ▸ by decide) hevent

theorem handleInput_moves (input : PredictedInput Float32) (result : UdpDatagramEnqueueResult)
    (hbefore : before.lifeCycle = session.lifeCycle) (hevent : ¬ event.stops) :
    session.lifeCycle.Moves event (before.handleInput input result).1.lifeCycle
      (before.handleInput input result).2 := by
  unfold handleInput
  split
  · exact moves_same hbefore hevent
  next hguard =>
    rw [Bool.or_eq_true, Bool.or_eq_true, not_or, not_or, decide_eq_true_eq, not_not] at hguard
    have hrunning : session.state = .running :=
      (congrArg LifeCycle.state hbefore).symm.trans hguard.1.2
    split
    · exact (sendUdp_sends before _ result).moves hbefore (hrunning ▸ by decide)
        (hrunning ▸ by decide) hevent
    · exact moves_same hbefore hevent

theorem receiveUdp_lifeCycle (session : GameSession) :
    session.receiveUdp.lifeCycle = session.lifeCycle := by
  unfold receiveUdp
  split
  · rfl
  · rfl

theorem handleReceived_moves (datagram : Option ServerDatagram)
    (hbefore : before.lifeCycle = session.lifeCycle) (hevent : ¬ event.stops) :
    session.lifeCycle.Moves event (before.handleReceived datagram).lifeCycle [] := by
  have hagain : (before.handleReceived datagram).lifeCycle =
      (datagram.elim before before.handleServerDatagram).lifeCycle := by
    unfold handleReceived
    dsimp only
    split
    · exact receiveUdp_lifeCycle _
    · rfl
  have hstate : before.state = session.state := congrArg LifeCycle.state hbefore
  rw [hagain]
  cases datagram with
  | none => exact moves_same hbefore hevent
  | some datagram =>
    have hreceives := handleServerDatagram_receives before datagram
    show session.lifeCycle.Moves event (before.handleServerDatagram datagram).lifeCycle []
    generalize before.handleServerDatagram datagram = after at hreceives ⊢
    cases hreceives with
    | quiet hafter => exact moves_same (hafter.trans hbefore) hevent
    | bound hbinding hafter =>
      rw [hafter, hbefore]
      exact .bound _ session.lifeCycle.flags.within_self (hstate.symm.trans hbinding) hevent
    | queued hrank hafter =>
      rw [hafter, hbefore]
      have hrank : 4 ≤ session.state.rank := hstate ▸ hrank
      exact .receives hrank hevent
    | failed hrank hlive hafter =>
      rw [hafter, hbefore]
      have hrank : 4 ≤ session.state.rank := hstate ▸ hrank
      have hlive : ¬ session.state.terminal := hstate ▸ hlive
      exact .fails _ ⟨fun _ => rfl, id, le_rfl, le_rfl⟩
        (.inl (show 2 ≤ session.state.rank by omega))
        (fun hfinished => hlive (.inl hfinished)) (fun hclosed => hlive (.inr (.inr hclosed)))
        hevent

theorem handleTcpClosed_moves
    (hbefore : before.lifeCycle = { session.lifeCycle with flags })
    (hflags : flags.Within session.lifeCycle.flags) (hrank : 2 ≤ session.state.rank)
    (hopen : session.stopRequested = false → session.state ≠ .finished →
      session.state ≠ .protocolError → session.udpOpen = false)
    (hevent : ¬ event.stops) :
    session.lifeCycle.Moves event before.handleTcpClosed.lifeCycle [] := by
  have hstate : before.state = session.state := congrArg LifeCycle.state hbefore
  unfold handleTcpClosed
  split
  · exact moves_within hbefore hflags rfl hevent
  next hstop =>
    split
    next hlive =>
      have hafter : (before.setState .closed).lifeCycle =
          { before.lifeCycle with state := .closed } := rfl
      rw [hafter, hbefore]
      rw [hstate] at hlive
      have hrunning : session.stopRequested = false :=
        (congrArg LifeCycle.stopRequested hbefore).symm.trans (Bool.eq_false_iff.mpr hstop)
      exact .lost flags hflags hlive.1 hlive.2 hrank (hopen hrunning hlive.1 hlive.2) hevent
    next => exact moves_within hbefore hflags rfl hevent

end InFlight

theorem act_moves (h : session.lifeCycle.Sound) (horderly : session.Orderly event) :
    session.lifeCycle.Moves event (session.act event).1.lifeCycle (session.act event).2 := by
  cases event with
  | start start => exact startSession_moves start nofun
  | fixedUpdate => exact fixedUpdate_moves h nofun
  | setDestination destination => exact setDestination_moves destination nofun
  | stop runtimeStarted runningOnNetworkThread =>
    exact stop_moves runtimeStarted runningOnNetworkThread trivial
  | resolveTcp =>
    dsimp only [act]
    split
    next => exact moves_same rfl nofun
    next count hcount =>
      have hopening : count + session.operations.tcpResolve + session.operations.connect + 1 =
          session.lifeCycle.flags.opening := by
        show _ = session.operations.resolveTcp + session.operations.tcpResolve +
          session.operations.connect
        omega
      have hflags : SessionFlags.Within { session.lifeCycle.flags with
          opening := count + session.operations.tcpResolve + session.operations.connect }
          session.lifeCycle.flags := ⟨id, id, hopening ▸ Nat.le_succ _, le_rfl⟩
      have hbefore : GameSession.lifeCycle { session with
          operations := { session.operations with resolveTcp := count } } =
          { session.lifeCycle with flags := { session.lifeCycle.flags with
            opening := count + session.operations.tcpResolve + session.operations.connect } } :=
        rfl
      unfold resolveTcp
      split
      · exact moves_within hbefore hflags rfl nofun
      · refine moves_same ?_ nofun
        unfold lifeCycle
        congr 2
        dsimp only
        omega
  | tcpResolved error =>
    dsimp only [act]
    split
    next => exact moves_same rfl nofun
    next count hcount =>
      have hopening : session.operations.resolveTcp + count + session.operations.connect + 1 =
          session.lifeCycle.flags.opening := by
        show _ = session.operations.resolveTcp + session.operations.tcpResolve +
          session.operations.connect
        omega
      have hflags : SessionFlags.Within { session.lifeCycle.flags with
          opening := session.operations.resolveTcp + count + session.operations.connect }
          session.lifeCycle.flags := ⟨id, id, hopening ▸ Nat.le_succ _, le_rfl⟩
      have hbefore : GameSession.lifeCycle { session with
          operations := { session.operations with tcpResolve := count } } =
          { session.lifeCycle with flags := { session.lifeCycle.flags with
            opening := session.operations.resolveTcp + count + session.operations.connect } } :=
        rfl
      unfold handleTcpResolved
      split
      · exact moves_within hbefore hflags rfl nofun
      next hstop =>
        split
        · exact moves_unreachable hbefore hflags (hopening ▸ Nat.lt_succ_self _)
            (Bool.eq_false_iff.mpr hstop) nofun
        · refine moves_same ?_ nofun
          unfold lifeCycle
          congr 2
  | connected error helloQueued =>
    dsimp only [act]
    split
    next => exact moves_same rfl nofun
    next count hcount =>
      have hopening : session.operations.resolveTcp + session.operations.tcpResolve + count + 1 =
          session.lifeCycle.flags.opening := by
        show _ = session.operations.resolveTcp + session.operations.tcpResolve +
          session.operations.connect
        omega
      have hflags : SessionFlags.Within { session.lifeCycle.flags with
          opening := session.operations.resolveTcp + session.operations.tcpResolve + count }
          session.lifeCycle.flags := ⟨id, id, hopening ▸ Nat.le_succ _, le_rfl⟩
      have hless : session.operations.resolveTcp + session.operations.tcpResolve + count <
          session.lifeCycle.flags.opening := hopening ▸ Nat.lt_succ_self _
      have hbefore : GameSession.lifeCycle { session with
          operations := { session.operations with connect := count } } =
          { session.lifeCycle with flags := { session.lifeCycle.flags with
            opening := session.operations.resolveTcp + session.operations.tcpResolve + count } } :=
        rfl
      unfold handleConnected
      split
      · exact moves_within hbefore hflags rfl nofun
      next hstop =>
        have hrunning : session.stopRequested = false := Bool.eq_false_iff.mpr hstop
        split
        · exact moves_unreachable hbefore hflags hless hrunning nofun
        · exact attachTcp_moves helloQueued hbefore hflags hless hrunning
            (h.connecting hless hrunning) nofun
  | tcpFrame message =>
    dsimp only [act]
    split
    next hopen =>
      have hattached : 2 ≤ session.state.rank := by
        refine h.attached ?_
        show (session.tcpOpen || _) = true
        rw [hopen, Bool.true_or]
      exact handleTcpFrame_moves message hattached (horderly hopen).1 (horderly hopen).2 nofun
    next => exact moves_same rfl nofun
  | tcpLost => exact moves_same (closeTcp_lifeCycle session) nofun
  | tcpClosed =>
    dsimp only [act]
    split
    next => exact moves_same rfl nofun
    next count hcount =>
      have hattached : session.lifeCycle.flags.tcpOpen = true := by
        show (session.tcpOpen || decide (0 < session.operations.tcpClosed)) = true
        rw [hcount, decide_eq_true (Nat.succ_pos count), Bool.or_true]
      exact handleTcpClosed_moves rfl ⟨fun _ => hattached, id, le_rfl, le_rfl⟩
        (h.attached hattached) (horderly (hcount ▸ Nat.succ_pos count)) nofun
  | udpResolved found result =>
    dsimp only [act]
    split
    next => exact moves_same rfl nofun
    next count hcount =>
      have hless : count < session.operations.udpResolve := hcount ▸ Nat.lt_succ_self count
      exact handleUdpResolved_moves h found result rfl ⟨id, id, le_rfl, hless.le⟩ hless
        (horderly (hcount ▸ Nat.succ_pos count)) nofun
  | bindWait error result =>
    dsimp only [act]
    split
    next => exact moves_same rfl nofun
    next => exact handleBindWait_moves error result rfl nofun
  | received datagram =>
    dsimp only [act]
    split
    next => exact moves_same rfl nofun
    next => exact handleReceived_moves datagram rfl nofun
  | input index result =>
    dsimp only [act]
    split
    next => exact moves_same rfl nofun
    next input _ => exact handleInput_moves input result rfl nofun
  | delivered index =>
    dsimp only [act]
    split
    next => exact moves_same rfl nofun
    next datagram _ =>
      rcases deliver_cases session datagram with hnone | ⟨hopen, hsent⟩
      · rw [hnone]
        exact moves_same rfl nofun
      · rw [hsent]
        exact .sends datagram hopen nofun
  | closeNetwork =>
    dsimp only [act]
    split
    next => exact moves_same rfl nofun
    next count _ =>
      rw [closeNetwork_lifeCycle]
      exact .closes _ session.lifeCycle.flags.within_self count nofun

end Functions

/-! ## Every orderly run -/

/-- A step follows the life cycle of the session. -/
def FollowsLifeCycle (session : GameSession) (event : SessionEvent) : Prop :=
  session.lifeCycle.Forward event (session.step event).lifeCycle (session.act event).2

/-- A finished session has its result, and one that is over and has no close to run keeps no
socket open. -/
structure Settled (session : GameSession) : Prop where
  finished : session.state = .finished → session.matchResult.isSome = true
  quiet : session.state.terminal → session.operations.closeNetwork = 0 →
    session.udpOpen = false

theorem initial_sound (navMesh : NavMesh Float32) : (initial navMesh).lifeCycle.Sound where
  opened := nofun
  resolving := nofun
  attached := nofun
  queued := nofun
  stopped := nofun
  finished := nofun
  result := nofun
  quiet := fun _ _ => rfl
  single := Nat.zero_le 1
  opening := nofun

theorem step_sound (session : GameSession) (event : SessionEvent)
    (horderly : session.Orderly event) (h : session.lifeCycle.Sound) :
    (session.step event).lifeCycle.Sound :=
  (act_moves h horderly).sound h

theorem orderly_followsLifeCycle {session : GameSession} (h : session.lifeCycle.Sound)
    {events : List SessionEvent} (horderly : Meets step Orderly session events) :
    Meets step FollowsLifeCycle session events := by
  induction events generalizing session with
  | nil => trivial
  | cons event events ih =>
    have hmoves := act_moves h horderly.1
    exact ⟨hmoves.forward h, ih (hmoves.sound h) horderly.2⟩

end GameSession

def SessionOutput.stores : SessionOutput → Bool
  | .sent _ => false
  | .resultStored _ => true

theorem SessionOutput.stores_iff (output : SessionOutput) :
    output.stores = true ↔ ∃ result, output = .resultStored result := by
  cases output with
  | sent datagram => exact ⟨nofun, nofun⟩
  | resultStored result => exact ⟨fun _ => ⟨result, rfl⟩, fun _ => rfl⟩

/-- A step adds to the results of a session what it stores. -/
theorem LifeCycle.Forward.stores_le {life next : LifeCycle} {event : SessionEvent}
    {outputs : List SessionOutput} (h : life.Forward event next outputs) :
    outputs.countP SessionOutput.stores + life.matchResult.toList.length ≤
      next.matchResult.toList.length := by
  by_cases hstores : ∃ result, SessionOutput.resultStored result ∈ outputs
  · obtain ⟨result, hmem⟩ := hstores
    obtain ⟨hnone, houtputs, hnext⟩ := h.stored result hmem
    rw [hnone, houtputs, hnext]
    exact le_rfl
  · have hcount : outputs.countP SessionOutput.stores = 0 := by
      refine List.countP_eq_zero.mpr fun output hmem hstores' => ?_
      obtain ⟨result, rfl⟩ := output.stores_iff.mp hstores'
      exact hstores ⟨result, hmem⟩
    rw [hcount, Nat.zero_add]
    cases hresult : life.matchResult with
    | none => exact Nat.zero_le _
    | some result =>
      have hkept := h.kept (by rw [hresult]; rfl)
      rw [hkept, hresult]

namespace GameSession

open LifeCycle

theorem stored_le_one {session : GameSession} (h : session.lifeCycle.Sound)
    {events : List SessionEvent} (horderly : Meets step Orderly session events) :
    (replies act session events).flatten.countP SessionOutput.stores +
      session.matchResult.toList.length ≤ 1 := by
  induction events generalizing session with
  | nil =>
    cases session.matchResult with
    | none => exact Nat.zero_le 1
    | some result => exact le_rfl
  | cons event events ih =>
    have hmoves := act_moves h horderly.1
    have hstep := (hmoves.forward h).stores_le
    have hrest := ih (hmoves.sound h) horderly.2
    rw [replies, List.flatten_cons, List.countP_append]
    change _ + session.matchResult.toList.length ≤
      (session.act event).1.matchResult.toList.length at hstep
    change _ + (session.act event).1.matchResult.toList.length ≤ 1 at hrest
    omega

/-- While no handler comes too late a session only moves forward, ends once and for all
unless it is stopped, stores one result at most and has it when it is finished, and neither
sends nor keeps its socket open when it is over. -/
theorem session_life_cycle (navMesh : NavMesh Float32) (events : List SessionEvent)
    (horderly : Meets step Orderly (initial navMesh) events) :
    Meets step FollowsLifeCycle (initial navMesh) events ∧
      (replies act (initial navMesh) events).flatten.countP SessionOutput.stores ≤ 1 ∧
      Settled (run step (initial navMesh) events) := by
  have hinitial := initial_sound navMesh
  have hsound : (run step (initial navMesh) events).lifeCycle.Sound :=
    run_invariant_of_meets step_sound hinitial horderly
  exact ⟨orderly_followsLifeCycle hinitial horderly, stored_le_one hinitial horderly,
    hsound.finished, hsound.quiet⟩

section Runs

def plainMesh : NavMesh Float32 :=
  { vertices := [], triangles := [], gridCellSize := 1, gridCells := ∅ }

def plainStart : GameSessionStart where
  player := ⟨1⟩
  ticket := { matchId := ⟨7⟩, ticket := .repeating 1, host := [] }

def plainWelcome : GameServerWelcome where
  matchId := ⟨7⟩
  player := ⟨1⟩
  actor := ⟨3⟩
  udpToken := .repeating 5

/-- A session up to the bound socket. -/
def bindingRun : List SessionEvent :=
  [.start plainStart, .resolveTcp, .tcpResolved false, .connected false true,
    .tcpFrame (some (.welcome plainWelcome)), .udpResolved true .sentImmediately,
    .received (some (.bindAccepted { matchId := ⟨7⟩, player := ⟨1⟩ }))]

def finishedRun : List SessionEvent :=
  bindingRun ++ [.tcpFrame (some (.result { matchId := ⟨7⟩, winner := ⟨3⟩ }))]

theorem session_life_cycle_finishes :
    (run step (initial plainMesh) finishedRun).state = .finished ∧
      Meets step FollowsLifeCycle (initial plainMesh) finishedRun ∧
      (replies act (initial plainMesh) finishedRun).flatten.countP SessionOutput.stores ≤ 1 ∧
      Settled (run step (initial plainMesh) finishedRun) := by
  refine ⟨by rfl, session_life_cycle plainMesh finishedRun ?_⟩
  refine ⟨trivial, trivial, trivial, trivial, fun _ => ⟨nofun, nofun⟩, fun _ _ => ?_, trivial,
    fun _ => ⟨nofun, nofun⟩, trivial⟩
  exact of_decide_eq_true rfl

/-- The welcome is handled between the stop and the close that the stop posted. -/
def stoppedRun : List SessionEvent :=
  [.start plainStart, .resolveTcp, .tcpResolved false, .connected false true,
    .stop true false]

/-- The result comes before the addresses of the server, the connection ends before the bind
is accepted. -/
def earlyRun (last : List SessionEvent) : List SessionEvent :=
  [.start plainStart, .resolveTcp, .tcpResolved false, .connected false true,
    .tcpFrame (some (.welcome plainWelcome))] ++ last

/-- The handlers that come too late: an end is overwritten, and sockets stay open. -/
theorem session_life_cycle_overwritten :
    ¬ FollowsLifeCycle (run step (initial plainMesh) finishedRun) (.tcpFrame none) ∧
      ¬ FollowsLifeCycle (run step (initial plainMesh) stoppedRun)
        (.tcpFrame (some (.welcome plainWelcome))) ∧
      ¬ Settled (run step (initial plainMesh) (earlyRun
        [.tcpFrame (some (.result { matchId := ⟨7⟩, winner := ⟨3⟩ })),
          .udpResolved true .sentImmediately])) ∧
      ¬ Settled (run step (initial plainMesh) (earlyRun
        [.udpResolved true .sentImmediately, .tcpLost, .tcpClosed])) := by
  refine ⟨fun h => ?_, fun h => ?_, fun h => ?_, fun h => ?_⟩
  · rcases h.absorbing (.inl rfl) with hstate | hstops
    · exact nomatch hstate
    · exact hstops
  · rcases h.absorbing (.inr (.inr rfl)) with hstate | hstops
    · exact nomatch hstate
    · exact hstops
  · exact nomatch h.quiet (.inl rfl) rfl
  · exact nomatch h.quiet (.inr (.inr rfl)) rfl

end Runs

end GameSession

end SurvivalArena
