import SurvivalArena.Lobby.LobbyService

/-!
# Issuing tickets

What one ticket and a whole room's tickets do to the stored tickets and to the
source they are drawn from.
-/

namespace SurvivalArena

open OrderedMap

namespace TicketSource

/-- The same draws, at least as many of them made. -/
def Extends (before after : TicketSource) : Prop :=
  after.draws = before.draws ∧ before.position ≤ after.position

/-- The ticket was drawn between two states of the source. -/
def Draws (before after : TicketSource) (ticket : MatchTicketValue) : Prop :=
  ∃ index, before.position ≤ index ∧ index < after.position ∧
    before.draws index = some ticket

/-- The ticket was among the draws so far. -/
def Drew (source : TicketSource) (ticket : MatchTicketValue) : Prop :=
  ∃ index < source.position, source.draws index = some ticket

/-- No ticket is drawn twice. -/
def NeverRepeats (source : TicketSource) : Prop :=
  ∀ first second ticket, source.draws first = some ticket →
    source.draws second = some ticket → first = second

theorem Extends.refl (source : TicketSource) : source.Extends source :=
  ⟨rfl, Nat.le_refl _⟩

theorem Extends.trans {before middle after : TicketSource}
    (h : before.Extends middle) (hnext : middle.Extends after) :
    before.Extends after :=
  ⟨hnext.1.trans h.1, h.2.trans hnext.2⟩

theorem extends_fill (source : TicketSource) : source.Extends source.fill.1 :=
  ⟨rfl, Nat.le_succ _⟩

theorem Extends.drew {before after : TicketSource} (h : before.Extends after)
    {ticket : MatchTicketValue} (hdrew : before.Drew ticket) : after.Drew ticket := by
  obtain ⟨index, hindex, hticket⟩ := hdrew
  exact ⟨index, hindex.trans_le h.2, by rw [h.1, hticket]⟩

theorem Extends.neverRepeats {before after : TicketSource} (h : before.Extends after)
    (hnever : before.NeverRepeats) : after.NeverRepeats := by
  unfold NeverRepeats
  rw [h.1]
  exact hnever

theorem Draws.mono {before first second after : TicketSource}
    (hbefore : before.Extends first) (hafter : second.Extends after)
    {ticket : MatchTicketValue} (h : first.Draws second ticket) :
    before.Draws after ticket := by
  obtain ⟨index, hfirst, hsecond, hticket⟩ := h
  exact ⟨index, hbefore.2.trans hfirst, hsecond.trans_le hafter.2, by
    rw [← hbefore.1, hticket]⟩

theorem Draws.drew {before after : TicketSource} (h : before.Extends after)
    {ticket : MatchTicketValue} (hdraws : before.Draws after ticket) :
    after.Drew ticket := by
  obtain ⟨index, -, hindex, hticket⟩ := hdraws
  exact ⟨index, hindex, by rw [h.1, hticket]⟩

/-- A source without repetition draws only tickets it never drew before. -/
theorem Draws.not_drew {before after : TicketSource} {ticket : MatchTicketValue}
    (hdraws : before.Draws after ticket) (hnever : before.NeverRepeats) :
    ¬before.Drew ticket := by
  rintro ⟨first, hfirst, hticket⟩
  obtain ⟨second, hsecond, -, hsame⟩ := hdraws
  exact absurd (hnever first second ticket hticket hsame)
    (hfirst.trans_le hsecond).ne

end TicketSource

namespace MatchTicketRegistry

/-- No stored ticket has expired. -/
def Purged (registry : MatchTicketRegistry) (now : TimePoint) : Prop :=
  ∀ (ticket : MatchTicketValue) (record : TicketRecord),
    registry.tickets[ticket]? = some record → now < record.expiresAt

theorem getElem?_purgeExpired (registry : MatchTicketRegistry) (now : TimePoint)
    (ticket : MatchTicketValue) :
    (registry.purgeExpired now).tickets[ticket]? =
      (registry.tickets[ticket]?).filter fun record =>
        decide (now < record.expiresAt) :=
  Std.ExtTreeMap.getElem?_filter'

theorem getElem?_revoke (registry : MatchTicketRegistry)
    (tickets : List MatchTicketValue) (ticket : MatchTicketValue) :
    (registry.revoke tickets).tickets[ticket]? =
      if ticket ∈ tickets then none else registry.tickets[ticket]? :=
  getElem?_foldl_erase tickets registry.tickets ticket

theorem purged_purgeExpired (registry : MatchTicketRegistry) (now : TimePoint) :
    (registry.purgeExpired now).Purged now := by
  intro ticket record hstored
  rw [getElem?_purgeExpired, Option.filter_eq_some_iff] at hstored
  exact of_decide_eq_true hstored.2

theorem Purged.purgeExpired {registry : MatchTicketRegistry} {now : TimePoint}
    (h : registry.Purged now) : registry.purgeExpired now = registry := by
  have htickets : (registry.purgeExpired now).tickets = registry.tickets := by
    apply Std.ExtTreeMap.ext_getElem?
    intro ticket
    rw [getElem?_purgeExpired]
    cases hstored : registry.tickets[ticket]? with
    | none => rfl
    | some record =>
      exact Option.filter_eq_some_iff.mpr
        ⟨rfl, decide_eq_true (h ticket record hstored)⟩
  change { registry with tickets := _ } = registry
  exact congrArg (MatchTicketRegistry.mk registry.source) htickets

/-- The outcome of the attempts: no ticket and nothing stored, or a new ticket. -/
inductive Attempted (record : TicketRecord) (before : MatchTicketRegistry) :
    MatchTicketRegistry × Option MatchTicketValue → Prop
  | failed (source : TicketSource) (extends_ : before.source.Extends source) :
    Attempted record before ({ before with source }, none)
  | issued (source : TicketSource) (ticket : MatchTicketValue)
    (extends_ : before.source.Extends source)
    (draws : before.source.Draws source ticket)
    (new : before.tickets[ticket]? = none) :
    Attempted record before
      ({ source, tickets := before.tickets.insert ticket record }, some ticket)

theorem Attempted.redraw {record : TicketRecord} {before : MatchTicketRegistry}
    {source : TicketSource} (h : before.source.Extends source)
    {outcome : MatchTicketRegistry × Option MatchTicketValue}
    (hattempted : Attempted record { before with source } outcome) :
    Attempted record before outcome := by
  cases hattempted with
  | failed later hextends => exact .failed later (h.trans hextends)
  | issued later ticket hextends hdraws hnew =>
    exact .issued later ticket (h.trans hextends) (hdraws.mono h (.refl later)) hnew

theorem issueAttempts_attempted (record : TicketRecord) (attempts : Nat)
    (registry : MatchTicketRegistry) :
    Attempted record registry (issueAttempts record attempts registry) := by
  induction attempts generalizing registry with
  | zero => exact .failed registry.source (.refl _)
  | succ attempts ih =>
    have hfill := registry.source.extends_fill
    rw [issueAttempts]
    cases hdrawn : registry.source.draws registry.source.position with
    | none =>
      simp only [TicketSource.fill, hdrawn]
      exact .failed _ hfill
    | some ticket =>
      simp only [TicketSource.fill, hdrawn]
      split
      · exact (ih _).redraw hfill
      · rename_i hnew
        have hdraws : registry.source.Draws registry.source.fill.1 ticket :=
          ⟨registry.source.position, Nat.le_refl _, Nat.lt_succ_self _, hdrawn⟩
        exact .issued _ ticket hfill hdraws (by simpa using hnew)

end MatchTicketRegistry

open MatchTicketRegistry

/-- The record of a ticket issued for a player. -/
def issuedRecord (matchId : MatchId) (now : TimePoint) (player : PlayerId) :
    TicketRecord where
  matchId
  player
  expiresAt := now + matchTicketLifetime

theorem issue_attempted {registry : MatchTicketRegistry} {now : TimePoint}
    (hpurged : registry.Purged now) (matchId : MatchId) (player : PlayerId) :
    Attempted (issuedRecord matchId now player) registry
      (registry.issue matchId player now) := by
  rw [issue, hpurged.purgeExpired]
  exact issueAttempts_attempted _ _ registry

/-- What issuing new tickets to players does to a registry without expired
tickets: each new ticket is stored for its player and everything else is kept. -/
structure TicketsIssued (before after : MatchTicketRegistry) (matchId : MatchId)
    (now : TimePoint) (players : List PlayerId) (new : List MatchTicketValue) :
    Prop where
  source : before.source.Extends after.source
  draws : ∀ ticket ∈ new, before.source.Draws after.source ticket
  unstored : ∀ ticket ∈ new, before.tickets[ticket]? = none
  stored : ∀ (player : PlayerId) (ticket : MatchTicketValue),
    (player, ticket) ∈ players.zip new →
      after.tickets[ticket]? = some (issuedRecord matchId now player)
  kept : ∀ ticket ∉ new, after.tickets[ticket]? = before.tickets[ticket]?
  distinct : new.Nodup

theorem TicketsIssued.none {registry : MatchTicketRegistry} {source : TicketSource}
    (h : registry.source.Extends source) (matchId : MatchId) (now : TimePoint)
    (players : List PlayerId) :
    TicketsIssued registry { registry with source } matchId now players [] where
  source := h
  draws := by simp
  unstored := by simp
  stored := by simp
  kept _ _ := rfl
  distinct := List.nodup_nil

/-- One ticket before the tickets of the other players. -/
theorem TicketsIssued.cons {before after : MatchTicketRegistry} {matchId : MatchId}
    {now : TimePoint} {player : PlayerId} {players : List PlayerId}
    {source : TicketSource} {ticket : MatchTicketValue} {new : List MatchTicketValue}
    (hextends : before.source.Extends source)
    (hdraws : before.source.Draws source ticket)
    (hnew : before.tickets[ticket]? = Option.none)
    (h : TicketsIssued
      ⟨source, before.tickets.insert ticket (issuedRecord matchId now player)⟩ after
      matchId now players new) :
    TicketsIssued before after matchId now (player :: players) (ticket :: new) := by
  have hfresh : ticket ∉ new := by
    intro hmem
    have hunstored := h.unstored ticket hmem
    rw [getElem?_insert, if_pos rfl] at hunstored
    cases hunstored
  exact {
    source := hextends.trans h.source
    draws := by
      intro other hother
      rcases List.mem_cons.mp hother with rfl | hother
      · exact hdraws.mono (.refl _) h.source
      · exact (h.draws other hother).mono hextends (.refl _)
    unstored := by
      intro other hother
      rcases List.mem_cons.mp hother with rfl | hother
      · exact hnew
      · have hunstored := h.unstored other hother
        have hne : other ≠ ticket := fun heq => hfresh (heq ▸ hother)
        rw [getElem?_insert, if_neg hne] at hunstored
        exact hunstored
    stored := by
      intro other issued hmem
      rw [List.zip_cons_cons, List.mem_cons] at hmem
      rcases hmem with heq | hmem
      · obtain ⟨rfl, rfl⟩ := Prod.mk.inj heq
        rw [h.kept issued hfresh, getElem?_insert, if_pos rfl]
      · exact h.stored other issued hmem
    kept := by
      intro other hother
      rw [List.mem_cons, not_or] at hother
      rw [h.kept other hother.2, getElem?_insert, if_neg hother.1]
    distinct := List.nodup_cons.mpr ⟨hfresh, h.distinct⟩ }

namespace LobbyService

/-- The tickets issued in addition to those issued before, all of them or those
before the first failure. -/
theorem issueTickets_issued {matchId : MatchId} {now : TimePoint}
    {players : List PlayerId} {issued : List MatchTicketValue}
    {registry after : MatchTicketRegistry}
    {outcome : Except (List MatchTicketValue) (List MatchTicketValue)}
    (hpurged : registry.Purged now)
    (h : issueTickets matchId now players issued registry = (after, outcome)) :
    ∃ new, TicketsIssued registry after matchId now players new ∧
      (outcome = .ok (issued ++ new) ∧ new.length = players.length ∨
        outcome = .error (issued ++ new)) := by
  induction players generalizing issued registry with
  | nil =>
    obtain ⟨rfl, rfl⟩ := Prod.mk.inj h
    exact ⟨[], .none (.refl _) _ _ _, Or.inl ⟨by rw [List.append_nil], rfl⟩⟩
  | cons player players ih =>
    rw [issueTickets] at h
    have hattempted := issue_attempted hpurged matchId player
    generalize registry.issue matchId player now = attempt at hattempted h
    cases hattempted with
    | failed source hextends =>
      obtain ⟨rfl, rfl⟩ := Prod.mk.inj h
      refine ⟨[], .none hextends matchId now (player :: players), Or.inr ?_⟩
      rw [List.append_nil]
    | issued source ticket hextends hdraws hnew =>
      have hnext : (⟨source, registry.tickets.insert ticket
          (issuedRecord matchId now player)⟩ : MatchTicketRegistry).Purged now := by
        intro other record hstored
        rw [getElem?_insert] at hstored
        split at hstored
        · obtain rfl := Option.some.inj hstored
          exact Int.lt_add_of_pos_right now (by decide)
        · exact hpurged other record hstored
      obtain ⟨new, hissued, houtcome⟩ := ih hnext h
      refine ⟨ticket :: new, .cons hextends hdraws hnew hissued, ?_⟩
      rw [List.append_assoc, List.singleton_append] at houtcome
      exact houtcome.imp_left fun ⟨hok, hlength⟩ =>
        ⟨hok, congrArg Nat.succ hlength⟩

/-- Issuing the first ticket purges the expired ones. -/
theorem issueTickets_purged (matchId : MatchId) (now : TimePoint)
    {players : List PlayerId} (hplayers : players ≠ [])
    (issued : List MatchTicketValue) (registry : MatchTicketRegistry) :
    issueTickets matchId now players issued (registry.purgeExpired now) =
      issueTickets matchId now players issued registry := by
  cases players with
  | nil => exact absurd rfl hplayers
  | cons player players =>
    rw [issueTickets, issueTickets, issue, issue,
      (registry.purged_purgeExpired now).purgeExpired]

/-- A failure leaves, after the issued tickets are revoked, the tickets that have
not expired. -/
theorem issueTickets_revoke {matchId : MatchId} {now : TimePoint}
    {players : List PlayerId} (hplayers : players ≠ [])
    {issued : List MatchTicketValue} {registry after : MatchTicketRegistry}
    (h : issueTickets matchId now players [] registry = (after, .error issued)) :
    (after.revoke issued).tickets = (registry.purgeExpired now).tickets := by
  rw [← issueTickets_purged matchId now hplayers] at h
  obtain ⟨new, hissued, hok | herror⟩ :=
    issueTickets_issued (registry.purged_purgeExpired now) h
  · cases hok.1
  · obtain rfl := Except.error.inj herror
    apply Std.ExtTreeMap.ext_getElem?
    intro ticket
    rw [getElem?_revoke]
    split
    · rename_i hmem
      exact (hissued.unstored ticket hmem).symm
    · rename_i hmem
      exact hissued.kept ticket hmem

end LobbyService

end SurvivalArena
