import SurvivalArena.Replication.DeltaEncoding
import SurvivalArena.Replication.ReassemblyRoundTrip
import SurvivalArena.Lobby.TicketHygiene
import SurvivalArena.Lobby.RegistryHistory
import SurvivalArena.Lobby.ServerEncoding
import SurvivalArena.GameServer.DatagramAdmission
import SurvivalArena.GameServer.ControlSafety
import SurvivalArena.Replication.ApplyErrors
import SurvivalArena.Lobby.ReservationTimers
import SurvivalArena.Simulation.CommandOrder
import SurvivalArena.Game.Crafting
import SurvivalArena.Game.EventDelivery
import SurvivalArena.Game.SkillAdmission
import SurvivalArena.Game.SkillCooldown
import SurvivalArena.Game.SubscriberIsolation
import SurvivalArena.GameClient.SessionLifeCycle
import SurvivalArena.Game.ItemBox
import SurvivalArena.Game.MonsterReward
import SurvivalArena.Game.BroadPhase
import SurvivalArena.Game.NavMeshAgent
import SurvivalArena.GameServer.TickSchedule
import SurvivalArena.Simulation.FireRate
import SurvivalArena.Replication.InterestVisibility
import SurvivalArena.Simulation.SpeedLimit
import SurvivalArena.Simulation.NavMeshLocation
import SurvivalArena.Engine.ResourcePool
import SurvivalArena.GameClient.PredictionHistory
import SurvivalArena.GameClient.SnapshotFeed
import SurvivalArena.Protocol.DatagramBijection
import SurvivalArena.Protocol.MessageRoundTrip
import SurvivalArena.Protocol.ConnectionRun
import SurvivalArena.Simulation.BruteForceBots
import SurvivalArena.AssetTool.SampleVectorKeys
import SurvivalArena.AssetTool.PackVertexInfluences
import SurvivalArena.Replication.CrcIntegrity
import SurvivalArena.Game.SeparatingAxes
import SurvivalArena.Engine.FrustumCulling
import SurvivalArena.Simulation.SafeZoneDamage
import SurvivalArena.Game.CollisionPush
import SurvivalArena.Simulation.MatchOutcome
import SurvivalArena.Replication.SnapshotDelivery
import SurvivalArena.Lobby.LobbyTraffic
