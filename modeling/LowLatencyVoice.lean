import LowLatencyVoice.Lib.GoMap
import LowLatencyVoice.Lib.SyncPool
import LowLatencyVoice.Lib.Table
import LowLatencyVoice.Lib.GoBytes
import LowLatencyVoice.Lib.Machine
import LowLatencyVoice.Lib.Precedence
import LowLatencyVoice.Lib.Paging
import LowLatencyVoice.Lib.RingBuffer
import LowLatencyVoice.Lib.NumberedRing
import LowLatencyVoice.Lib.GoSync
import LowLatencyVoice.Lib.Goroutines
import LowLatencyVoice.Lib.DeltaReports
import LowLatencyVoice.Lib.Base64
import LowLatencyVoice.Lib.CString
import LowLatencyVoice.Lib.Seating
import LowLatencyVoice.Lib.GoSlice
import LowLatencyVoice.Lib.SlidingWindow
import LowLatencyVoice.Model.Voice
import LowLatencyVoice.Model.User
import LowLatencyVoice.Storage.VoiceTokens
import LowLatencyVoice.Storage.Sessions
import LowLatencyVoice.Storage.Database
import LowLatencyVoice.Storage.Messages
import LowLatencyVoice.Storage.Migrations
import LowLatencyVoice.Storage.Rights
import LowLatencyVoice.Storage.Redemptions
import LowLatencyVoice.Auth.Service
import LowLatencyVoice.Auth.Password
import LowLatencyVoice.Auth.Registration
import LowLatencyVoice.Auth.Rights
import LowLatencyVoice.Auth.Identity
import LowLatencyVoice.Auth.Credentials
import LowLatencyVoice.Audio.Packet
import LowLatencyVoice.Audio.Session
import LowLatencyVoice.Audio.SessionIndex
import LowLatencyVoice.Audio.IndexInvariant
import LowLatencyVoice.Audio.Revocation
import LowLatencyVoice.Audio.Eviction
import LowLatencyVoice.Audio.AddressIndex
import LowLatencyVoice.Audio.Router
import LowLatencyVoice.Audio.RouterLaws
import LowLatencyVoice.Audio.Codec
import LowLatencyVoice.Audio.Bystanders
import LowLatencyVoice.Audio.Redeemability
import LowLatencyVoice.Plane.Events
import LowLatencyVoice.Audio.Pool
import LowLatencyVoice.Audio.Pooling
import LowLatencyVoice.Audio.LockRegions
import LowLatencyVoice.Audio.Gating
import LowLatencyVoice.Plane.Tokens
import LowLatencyVoice.Plane.Provenance
import LowLatencyVoice.Plane.Forwarding
import LowLatencyVoice.Plane.Moderation
import LowLatencyVoice.Plane.Idle
import LowLatencyVoice.Plane.SingleUse
import LowLatencyVoice.Plane.Speaking
import LowLatencyVoice.Control.Hub
import LowLatencyVoice.Control.HubLaws
import LowLatencyVoice.Control.Outbound
import LowLatencyVoice.Control.EventQueue
import LowLatencyVoice.Control.EventOrder
import LowLatencyVoice.Control.Server
import LowLatencyVoice.Control.ServerLaws
import LowLatencyVoice.Control.Connections
import LowLatencyVoice.Control.Rooms
import LowLatencyVoice.Control.Flags
import LowLatencyVoice.Control.Kick
import LowLatencyVoice.Control.Presence
import LowLatencyVoice.Control.Capacity
import LowLatencyVoice.Control.Occupancy
import LowLatencyVoice.Control.VoiceSessions
import LowLatencyVoice.Control.Unregistration
import LowLatencyVoice.Control.Announcements
import LowLatencyVoice.Control.Broadcast
import LowLatencyVoice.Control.Handler
import LowLatencyVoice.Control.Operations
import LowLatencyVoice.Control.Noninterference
import LowLatencyVoice.Control.Arrivals
import LowLatencyVoice.Control.VoiceRooms
import LowLatencyVoice.Control.FailedJoin
import LowLatencyVoice.Control.RateLimiter
import LowLatencyVoice.Client.Engine
import LowLatencyVoice.Client.CapturePrivacy
import LowLatencyVoice.Client.Hangover
import LowLatencyVoice.Client.VoicePipeline
import LowLatencyVoice.Client.PushToTalk
import LowLatencyVoice.Client.Wire
import LowLatencyVoice.Client.Inbound
import LowLatencyVoice.Client.VoiceEngine
import LowLatencyVoice.Client.Streams
import LowLatencyVoice.Client.Overflow
import LowLatencyVoice.Client.Mixer
import LowLatencyVoice.Client.Limiter
import LowLatencyVoice.Client.Notifiers
import LowLatencyVoice.Client.ClearedState
import LowLatencyVoice.Client.Replica
import LowLatencyVoice.Client.FlagReplica
import LowLatencyVoice.Client.Chat
import LowLatencyVoice.Client.ChatCompleteness
import LowLatencyVoice.Client.ChatUniqueness
import LowLatencyVoice.Client.WebSocketService
import LowLatencyVoice.Client.ConnectionLifecycle
import LowLatencyVoice.Client.VoiceCalls
import LowLatencyVoice.Client.LastIntent
import LowLatencyVoice.Client.Audibility
import LowLatencyVoice.Client.PeerSlots
import LowLatencyVoice.Client.UserVolumes
import LowLatencyVoice.Client.Datagrams
import LowLatencyVoice.Client.Devices
import LowLatencyVoice.Client.Hardware
import LowLatencyVoice.Lib.Json
import LowLatencyVoice.Control.Protocol
import LowLatencyVoice.Control.RequestIds
import LowLatencyVoice.Lib.Trim
import LowLatencyVoice.Client.Endpoint
import LowLatencyVoice.Client.EndpointGrammar
import LowLatencyVoice.Lib.Correlation
import LowLatencyVoice.Client.Frames
import LowLatencyVoice.Client.Rpc
import LowLatencyVoice.Lib.Program
import LowLatencyVoice.Control.Responses
import LowLatencyVoice.Control.Requests
import LowLatencyVoice.Control.OneResponse
import LowLatencyVoice.Control.Sequential
import LowLatencyVoice.Control.Marshal
import LowLatencyVoice.Client.RpcMethods
import LowLatencyVoice.Client.Conversation
import LowLatencyVoice.Client.Roster
import LowLatencyVoice.Lib.Writes
import LowLatencyVoice.Control.Online
import LowLatencyVoice.Client.MemberList
import LowLatencyVoice.Client.Speech
import LowLatencyVoice.Client.Conference
