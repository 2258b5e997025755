import WorldServer.Guilds.BankConservation
import WorldServer.Guilds.WithdrawLimit
import WorldServer.AuctionHouse.Lifecycle
import WorldServer.Guilds.Leadership
import WorldServer.Guilds.Authority
import WorldServer.Guilds.Rights
import WorldServer.Pools.Counters
import WorldServer.Pools.DailyPass
import WorldServer.Pools.Hierarchy
import WorldServer.Groups.Release
import WorldServer.Groups.SubGroups
import WorldServer.Combat.Taunts
import WorldServer.Battlegrounds.AverageWaits
import WorldServer.Battlegrounds.WaitingTimes
import WorldServer.Battlegrounds.NewMatches
import WorldServer.DungeonFinding.QueueRuns
import WorldServer.DungeonFinding.ProposalRuns
import WorldServer.Accounts.RBAC
import WorldServer.Conditions.SearchMask
import WorldServer.Reputation.Counters
import WorldServer.Reputation.StandingPacket
import WorldServer.Calendar.Removals
import WorldServer.Looting.References
import WorldServer.Looting.Counting
import WorldServer.VoidStorage.Transfer
import WorldServer.Instances.GlobalResets
import WorldServer.Instances.InstanceResets
import WorldServer.Instances.StartUp
import WorldServer.Channels.Ownership
import WorldServer.Auth.Segmentation
import WorldServer.Auth.SecondFactor
import WorldServer.Events.Schedule
import WorldServer.Network.OutputOrder
import WorldServer.Skills.SkillSlots
import WorldServer.BlackMarket.BidRuns
import WorldServer.FreedomRaids.RaidMembership
import WorldServer.Quests.SavedLog
import WorldServer.Quests.ProgressRuns
import WorldServer.Packets.PackGUID
import WorldServer.Packets.ObjectGuid
import WorldServer.Combat.VictimSelection
import WorldServer.Utilities.EventOrder
import WorldServer.Groups.RoundRobin
import WorldServer.Guilds.LogHolder
import WorldServer.Items.Accounting
import WorldServer.Vendors.BuybackSlots
import WorldServer.DungeonFinding.RoleAssignment
import WorldServer.Guilds.Experience
import WorldServer.DungeonFinding.KickVotes
import WorldServer.DungeonFinding.GreedySearch
import WorldServer.Utilities.TimeString
import WorldServer.Auth.PasswordExchange
import WorldServer.Currencies.Currency
import WorldServer.Currencies.Persistence
import WorldServer.Network.Framing
import WorldServer.Quests.Periods
import WorldServer.Auth.BigNumber
import WorldServer.Network.Headers
import WorldServer.Chat.Dispatch
import WorldServer.Quests.Prerequisites
