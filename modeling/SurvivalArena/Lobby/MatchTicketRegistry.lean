import SurvivalArena.Framework.OrderedMap
import SurvivalArena.Protocol.LobbyMessages

/-!
# Match tickets

Tickets are drawn from a source that is not under the lobby's control; a draw may
fail or repeat an earlier ticket.  Time points are nanoseconds of a steady clock.
-/

namespace SurvivalArena

abbrev TimePoint := Int

def nanosecondsPerSecond : Int := 1000000000

def nanosecondsPerMillisecond : Int := 1000000

def matchTicketLifetime : Int :=
  matchTicketLifetimeSeconds * nanosecondsPerSecond

/-- The outcomes of all draws, and the number of draws made. -/
structure TicketSource where
  draws : Nat → Option MatchTicketValue
  position : Nat := 0

def TicketSource.fill (source : TicketSource) :
    TicketSource × Option MatchTicketValue :=
  ({ source with position := source.position + 1 },
   source.draws source.position)

structure TicketRecord where
  matchId : MatchId
  player : PlayerId
  expiresAt : TimePoint
deriving DecidableEq

structure MatchTicketRegistry where
  source : TicketSource
  tickets : Std.ExtTreeMap MatchTicketValue TicketRecord := ∅

def maximumTicketAttempts : Nat := 8

namespace MatchTicketRegistry

def purgeExpired (registry : MatchTicketRegistry) (now : TimePoint) :
    MatchTicketRegistry :=
  { registry with
    tickets := registry.tickets.filter fun _ record =>
      decide (now < record.expiresAt) }

/-- Draw until a ticket is new, a draw fails or no attempt is left. -/
def issueAttempts (record : TicketRecord) :
    Nat → MatchTicketRegistry → MatchTicketRegistry × Option MatchTicketValue
  | 0, registry => (registry, none)
  | attempts + 1, registry =>
    let (source, drawn) := registry.source.fill
    match drawn with
    | none => ({ registry with source }, none)
    | some ticket =>
      if registry.tickets.contains ticket then
        issueAttempts record attempts { registry with source }
      else
        ({ source, tickets := registry.tickets.insert ticket record },
         some ticket)

def issue (registry : MatchTicketRegistry) (matchId : MatchId)
    (player : PlayerId) (now : TimePoint) :
    MatchTicketRegistry × Option MatchTicketValue :=
  issueAttempts { matchId, player, expiresAt := now + matchTicketLifetime }
    maximumTicketAttempts (registry.purgeExpired now)

def revoke (registry : MatchTicketRegistry) (tickets : List MatchTicketValue) :
    MatchTicketRegistry :=
  { registry with tickets := tickets.foldl (·.erase ·) registry.tickets }

end MatchTicketRegistry

end SurvivalArena
