import TboxFramework.Library.Interleaving
import TboxFramework.Library.ScopeStack
import TboxFramework.Library.DurableDirectory
import TboxFramework.Library.DurableRemoval
import TboxFramework.Library.OpenFiles
import TboxFramework.Library.AtomicReplace
import TboxFramework.Library.ByteFeed
import TboxFramework.Library.CappedGrowth
import TboxFramework.Library.CivilCalendar
import TboxFramework.Library.FrameStream
import TboxFramework.Library.SerialOutput
import TboxFramework.Library.LayeredOverride
import TboxFramework.Library.Decimal
import TboxFramework.Library.RotatingLog
import TboxFramework.Library.Utf8
import TboxFramework.Library.Json
import TboxFramework.Library.JsonValues
import TboxFramework.Library.GeneralFormat
import TboxFramework.Library.Rounding
import TboxFramework.Library.Binary64
import TboxFramework.Library.BitString
import TboxFramework.Library.Base64
import TboxFramework.Library.SecureHash
import TboxFramework.Library.Hexadecimal
import TboxFramework.Library.SortedMap
import TboxFramework.Library.TextLines
import TboxFramework.Library.SixDigits
import TboxFramework.Library.GeneralReading
import TboxFramework.Log.Levels
import TboxFramework.Log.AsyncDispatcher
import TboxFramework.Log.DispatcherAccounting
import TboxFramework.Log.ExactlyOnce
import TboxFramework.Log.FlushBarrier
import TboxFramework.Log.LineAccounting
import TboxFramework.Log.CallOrder
import TboxFramework.Log.LogConfig
import TboxFramework.Log.Fields
import TboxFramework.Log.Redactor
import TboxFramework.Log.Enricher
import TboxFramework.Log.ContextScope
import TboxFramework.Log.JsonLineFormatter
import TboxFramework.Log.NonInterference
import TboxFramework.Log.LogFileNames
import TboxFramework.Log.StandardFormatter
import TboxFramework.Log.Timestamps
import TboxFramework.Log.LoggerLine
import TboxFramework.Log.LevelMediation
import TboxFramework.Log.JsonReading
import TboxFramework.Log.JsonRoundTrip
import TboxFramework.Log.JsonLines
import TboxFramework.Log.RollingFileSink
import TboxFramework.Log.RotationRefinement
import TboxFramework.Log.RecordLines
import TboxFramework.Log.OwnFields
import TboxFramework.Log.DiskBudget
import TboxFramework.Log.RotationAge
import TboxFramework.Log.SinkSurvival
import TboxFramework.Log.SinkManager
import TboxFramework.Log.SinkFallback
import TboxFramework.Log.FallbackLines
import TboxFramework.Log.LoggerRegistry
import TboxFramework.Log.LoggerLifetime
import TboxFramework.Log.LogPipeline
import TboxFramework.Store.Paths
import TboxFramework.Store.SaveMachine
import TboxFramework.Store.SaveSteps
import TboxFramework.Store.ValueTypes
import TboxFramework.Store.StoreCalls
import TboxFramework.Store.CallFrames
import TboxFramework.Store.WriteStages
import TboxFramework.Store.FailedWrite
import TboxFramework.Store.TypedMap
import TboxFramework.Store.DirectoryListing
import TboxFramework.Store.Sessions
import TboxFramework.Store.Shelf
import TboxFramework.Store.SessionRefinement
import TboxFramework.Store.FlushPolicy
import TboxFramework.Library.PathResolution
import TboxFramework.Store.KeyIsolation
import TboxFramework.Store.PowerLoss
import TboxFramework.Store.ConcurrentSave
import TboxFramework.Store.FileLock
import TboxFramework.Store.LockExclusion
import TboxFramework.Ipc.Protocol
import TboxFramework.Ipc.Base64Codec
import TboxFramework.Ipc.FrameReader
import TboxFramework.Ipc.FrameWriter
import TboxFramework.Ipc.Client
import TboxFramework.Ipc.ClientDescriptors
import TboxFramework.Ipc.CallConnections
import TboxFramework.Ipc.LinkProtocol
import TboxFramework.Ipc.ListenSocket
import TboxFramework.Ipc.SocketStory
import TboxFramework.Ipc.EventDelivery
import TboxFramework.Ipc.ResponseMatching
import TboxFramework.Ipc.Server
import TboxFramework.Ipc.ServerThreads
import TboxFramework.Ipc.ServerRegistry
import TboxFramework.Ipc.ServerClients
import TboxFramework.Ipc.EventIsolation
import TboxFramework.Ipc.WriteLocks
import TboxFramework.Ipc.OutputStream
import TboxFramework.Ipc.SubscribeHandshake
import TboxFramework.Ipc.IdleSubscription
import TboxFramework.Ipc.DisconnectNotice
import TboxFramework.Ipc.StopQuiescence
import TboxFramework.Ipc.RestartIsolation
import TboxFramework.Ipc.StopRejection
import TboxFramework.Ipc.Subscription
import TboxFramework.Ipc.SubscriptionThreads
import TboxFramework.Ipc.SubscriptionCalls
import TboxFramework.Ipc.ReconnectBackoff
import TboxFramework.Ipc.SubscriptionDescriptors
import TboxFramework.Ipc.SubscriptionOwners
import TboxFramework.Ipc.SubscriptionLifeCycle
import TboxFramework.Ipc.CallbackReentry
import TboxFramework.Config.Yaml
import TboxFramework.Config.MergedTree
import TboxFramework.Config.KeyPaths
import TboxFramework.Config.ConfigMerger
import TboxFramework.Config.SharedNodes
import TboxFramework.Config.MergerRefinement
import TboxFramework.Config.LayeredMerge
import TboxFramework.Config.SharedMerge
import TboxFramework.Config.SharedFrame
import TboxFramework.Config.AliasedOverride
import TboxFramework.Config.PathResolver
import TboxFramework.Config.ConfigManager
import TboxFramework.Config.NodeHandles
import TboxFramework.Config.ValidationEffects
import TboxFramework.Config.FreshLookup
import TboxFramework.Config.ConfigView
import TboxFramework.Config.LoadReporting
import TboxFramework.Config.LoadSequence
import TboxFramework.Config.KeyOrder
import TboxFramework.Config.RootPriority
import TboxFramework.Application.LogSetup
import TboxFramework.Application.FailClosed
import TboxFramework.Application.ConfigAdapter
import TboxFramework.Application.SignalSets
import TboxFramework.Application.LifeCycle
import TboxFramework.Application.Shutdown
import TboxFramework.Application.ConfigLoading
import TboxFramework.Application.Startup
import TboxFramework.Store.RemoveMachine
import TboxFramework.Store.RemovalDurability
import TboxFramework.Store.LoadMachine
import TboxFramework.Store.LoadLinearizable
import TboxFramework.Store.DoubleValues
import TboxFramework.Hash.Sha256
import TboxFramework.Hash.Sha256Block
import TboxFramework.Hash.Sha256Streaming
import TboxFramework.Hash.Sha256Conformance
import TboxFramework.Hash.Sha256Chunks
import TboxFramework.Utils.Stoi
import TboxFramework.Utils.GlobalKeys
import TboxFramework.Utils.BrokenWrites
import TboxFramework.Utils.HexCodec
