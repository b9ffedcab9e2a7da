import Globed.Base.Assured
import Globed.Base.BinarySearch
import Globed.Base.Bytes
import Globed.Base.Call
import Globed.Base.Drain
import Globed.Base.FiniteMap
import Globed.Base.History
import Globed.Base.Isolation
import Globed.Base.Locks
import Globed.Base.Pool
import Globed.Base.Prefixes
import Globed.Base.Proc
import Globed.Base.Sessions
import Globed.Base.Tickets
import Globed.Client.ByteBuffer
import Globed.Client.CappedQueue
import Globed.Client.ChatLists
import Globed.Client.ChatMessage
import Globed.Client.Corrector
import Globed.Client.Data
import Globed.Client.Destination
import Globed.Client.Endpoints
import Globed.Client.Estimation
import Globed.Client.GameSocket
import Globed.Client.Grammar
import Globed.Client.Heartbeat
import Globed.Client.IdList
import Globed.Client.Interplay
import Globed.Client.Interpolation
import Globed.Client.LevelPlayers
import Globed.Client.MainLoop
import Globed.Client.Methods
import Globed.Client.NetworkHandler
import Globed.Client.Pings
import Globed.Client.PlayLayer
import Globed.Client.Playing
import Globed.Client.Reception
import Globed.Client.RoundTrip
import Globed.Client.Rules
import Globed.Client.ServerList
import Globed.Client.Session
import Globed.Client.Story
import Globed.Client.Threads
import Globed.Client.UdpSocket
import Globed.Client.Upkeep
import Globed.Client.World
import Globed.Server.Alone
import Globed.Server.Authentication
import Globed.Server.Bytebuffer
import Globed.Server.Chat
import Globed.Server.CheckIn
import Globed.Server.Cleanup
import Globed.Server.Commute
import Globed.Server.Data
import Globed.Server.Drain
import Globed.Server.Entry
import Globed.Server.Fanout
import Globed.Server.Handlers
import Globed.Server.Interleaving
import Globed.Server.Invariants
import Globed.Server.Locks
import Globed.Server.Malformed
import Globed.Server.Membership
import Globed.Server.Provenance
import Globed.Server.Refinement
import Globed.Server.Registry
import Globed.Server.Replies
import Globed.Server.SendFailures
import Globed.Server.State
import Globed.Server.Sweep
import Globed.Server.System
import Globed.Server.Table
import Globed.Wire.ClientToServer
import Globed.Wire.Conversation
import Globed.Wire.LevelList
import Globed.Wire.Players
import Globed.Wire.Reading
import Globed.Wire.ServerToClient
import Globed.Wire.Traffic
