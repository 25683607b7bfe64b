import DdzServer.Lib.Run
import DdzServer.Lib.UnorderedMap
import DdzServer.Lib.Table
import DdzServer.Util.CppString
import DdzServer.Util.KvCodec
import DdzServer.Util.Sha256
import DdzServer.Rule.RuleEngine
import DdzServer.Rule.ComboOrder
import DdzServer.Rule.RankCounts
import DdzServer.Rule.ComboGrammar
import DdzServer.Room.Basic
import DdzServer.Room.Action
import DdzServer.Room.Cards
import DdzServer.Room.ActionRule
import DdzServer.Room.RoomManager
import DdzServer.Room.RoomStep
import DdzServer.Room.WellFormed
import DdzServer.Room.Conservation
import DdzServer.Room.Rejection
import DdzServer.Room.SnapshotVersion
import DdzServer.Login.AuthTokenService
import DdzServer.Session.SessionManager
import DdzServer.Match.MatchManager
import DdzServer.Player.PlayerManager
import DdzServer.Storage.StorageService
import DdzServer.Server.GameServer
import DdzServer.Login.LoginService
import DdzServer.Match.MatchQueue
import DdzServer.Match.QueueHistory
import DdzServer.Match.MatchService
import DdzServer.Reconnect.ReconnectService
import DdzServer.Room.Membership
import DdzServer.Settlement.SettlementService
import DdzServer.Storage.Transaction
import DdzServer.Settlement.SettleRule
import DdzServer.Server.ServerRun
import DdzServer.Session.ConnectionMap
import DdzServer.Player.Coins
import DdzServer.Settlement.FailedSettlement
import DdzServer.Server.Roster
import DdzServer.Server.Agreement
import DdzServer.Settlement.Ledger
import DdzServer.Lib.Interleaving
import DdzServer.Network.TcpServer
import DdzServer.Network.LiveSessions
import DdzServer.Reconnect.SnapshotConflict
import DdzServer.Settlement.SettlementCalls
import DdzServer.Server.ServerThreads
import DdzServer.Settlement.GameWinner
import DdzServer.Settlement.SettledOnce
import DdzServer.Login.IssuedTokens
import DdzServer.Network.ProvedConnections
import DdzServer.Room.GameLength
import DdzServer.Room.Auction
import DdzServer.Room.TrusteePlay
import DdzServer.Room.TrusteeChoice
import DdzServer.Room.TrickOrder
import DdzServer.Server.Duties
import DdzServer.Server.ExpiredRooms
import DdzServer.Server.HandlerCalls
import DdzServer.Server.HandlerEffects
import DdzServer.Server.OneRoom
import DdzServer.Server.QueueState
import DdzServer.Server.TimerTick
import DdzServer.Gateway.EnvelopeText
import DdzServer.Lib.Framing
import DdzServer.Lib.Inbox
import DdzServer.Network.PacketCodec
import DdzServer.Network.SendPacket
import DdzServer.Server.ResponseTrace
import DdzServer.Client.ObjectText
import DdzServer.Client.WsClient
import DdzServer.Lib.Double
import DdzServer.Client.Number
import DdzServer.Client.Kv
import DdzServer.Client.Stores
import DdzServer.Client.Lobby
import DdzServer.Server.RoomPush
import DdzServer.Server.Notifications
import DdzServer.Server.MessageThreads
import DdzServer.Server.LobbyAgreement
import DdzServer.Server.ActionText
import DdzServer.Server.HiddenHands
import DdzServer.Gateway.BrowserEnvelopes
import DdzServer.Lib.SlidingWindow
import DdzServer.Gateway.GatewayServer
import DdzServer.Gateway.HttpRate
import DdzServer.Gateway.WsSlots
import DdzServer.Gateway.PendingBySeq
import DdzServer.Gateway.SessionRefresh
import DdzServer.Client.RoomView
import DdzServer.Client.SupersededSockets
import DdzServer.Client.TokenExpiry
import DdzServer.Server.TickThreads
import DdzServer.Server.MatchThreads
import DdzServer.Redis.FailedAuth
import DdzServer.Lib.SecureHash
import DdzServer.Util.Sha256Digest
import DdzServer.Room.LaterRooms
import DdzServer.Server.SnapshotOrder
import DdzServer.Lib.ClimbingGame
import DdzServer.Room.Position
import DdzServer.Room.Game
import DdzServer.Redis.SessionTokens
import DdzServer.Gateway.UpstreamTcpClient
import DdzServer.Gateway.ProxySession
import DdzServer.Lib.Domains
import DdzServer.Gateway.Traffic
import DdzServer.Gateway.AddressHistory
import DdzServer.Client.GameService
import DdzServer.Server.Requests
import DdzServer.Gateway.RequestPath
