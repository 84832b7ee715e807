import ObsZCamera.Misc.Cursor
import ObsZCamera.HwDecode.BitReader
import ObsZCamera.HwDecode.Sps
import ObsZCamera.HwDecode.ImportCache
import ObsZCamera.HwDecode.LengthPrefixed
import ObsZCamera.HwDecode.AnnexB
import ObsZCamera.HwDecode.StartCodePieces
import ObsZCamera.HwDecode.PrefixedSps
import ObsZCamera.Misc.Checked
import ObsZCamera.HwDecode.BoundedSniffer
import ObsZCamera.HwDecode.SnifferSafety
import ObsZCamera.Misc.Decoder
import ObsZCamera.CameraCtrl.WsClient
import ObsZCamera.CameraCtrl.WsConsumption
import ObsZCamera.CameraCtrl.Digest
import ObsZCamera.CameraCtrl.WsFrame
import ObsZCamera.Misc.TransitionSystem
import ObsZCamera.CameraCtrl.HttpTransport
import ObsZCamera.CameraCtrl.RequestOrder
import ObsZCamera.CameraCtrl.NonceCount
import ObsZCamera.CameraCtrl.CameraClient
import ObsZCamera.CameraCtrl.SettingsEngine
import ObsZCamera.CameraCtrl.FailedRead
import ObsZCamera.CameraCtrl.RejectedWrite
import ObsZCamera.CameraCtrl.GroupFallback
import ObsZCamera.CameraCtrl.EngineCallbacks
import ObsZCamera.CameraCtrl.CacheAgreement
import ObsZCamera.Misc.Execution
import ObsZCamera.CameraCtrl.GroupCalls
import ObsZCamera.CameraCtrl.ClientSession
import ObsZCamera.CameraCtrl.FailedConnect
import ObsZCamera.CameraCtrl.LateArrivals
import ObsZCamera.CameraCtrl.NextCamera
import ObsZCamera.HwDecode.Backend
import ObsZCamera.Source.DecoderSwap
import ObsZCamera.Source.SoftwareFallback
import ObsZCamera.Source.StreamBitDepth
import ObsZCamera.Source.Watchdog
import ObsZCamera.Source.ConnectorClient
import ObsZCamera.Misc.LittleEndian
import ObsZCamera.Connector.ReceiveLoop
import ObsZCamera.Connector.Protocol
import ObsZCamera.Connector.RoundTrip
import ObsZCamera.Connector.MessageBounds
import ObsZCamera.Mdns.QueryCallback
import ObsZCamera.Mdns.Attribution
import ObsZCamera.Mdns.ServiceFilter
import ObsZCamera.CameraCtrl.WsNotifier
import ObsZCamera.CameraCtrl.NotifierLive
import ObsZCamera.CameraCtrl.NotifierProgress
import ObsZCamera.Source.Lifecycle
import ObsZCamera.Source.StopLeavesNothing
import ObsZCamera.Source.LifecycleLock
import ObsZCamera.Source.SourceConnection
import ObsZCamera.Source.LostConnection
import ObsZCamera.Source.ReceiveThread
import ObsZCamera.Misc.Custody
import ObsZCamera.Source.FrameFlow
import ObsZCamera.Source.FrameConservation
import ObsZCamera.Source.FramesDrained
import ObsZCamera.Dock.StreamBar
import ObsZCamera.Dock.StreamIndex
import ObsZCamera.Dock.OpenCamera
import ObsZCamera.Dock.SlotIndices
import ObsZCamera.Source.DecoderInstances
import ObsZCamera.Source.SpuriousFallback
import ObsZCamera.Misc.LockOrder
import ObsZCamera.Source.SourceLocks
import ObsZCamera.Source.ReconnectToken
import ObsZCamera.Source.DeadlockFree
import ObsZCamera.HwDecode.BitView
import ObsZCamera.HwDecode.SpsLayout
import ObsZCamera.HwDecode.SpsFields
import ObsZCamera.HwDecode.SubLayers
import ObsZCamera.HwDecode.TruncatedSps
import ObsZCamera.HwDecode.DepthRange
import ObsZCamera.HwDecode.SpsRoundTrip
import ObsZCamera.CameraCtrl.ClosedSocket
import ObsZCamera.CameraCtrl.StopFinal
import ObsZCamera.CameraCtrl.BackoffSchedule
import ObsZCamera.CameraCtrl.HandshakeBoundary
import ObsZCamera.Dock.PresetPanel
import ObsZCamera.Misc.ParamList
import ObsZCamera.CameraCtrl.ChallengeParams
import ObsZCamera.CameraCtrl.ResponseVerifies
import ObsZCamera.Misc.Numeral
import ObsZCamera.CameraCtrl.CountText
import ObsZCamera.CameraCtrl.HeaderParams
import ObsZCamera.Misc.Handles
import ObsZCamera.Misc.HeaderBlock
import ObsZCamera.CameraCtrl.UpgradeRequest
import ObsZCamera.Misc.QString
import ObsZCamera.Misc.QUrl
import ObsZCamera.Dock.SettingRows
import ObsZCamera.CameraCtrl.RequestOrigin
import ObsZCamera.Misc.Latest
import ObsZCamera.CameraCtrl.Accessors
import ObsZCamera.HwDecode.CudaImport
import ObsZCamera.HwDecode.D3d11Import
import ObsZCamera.HwDecode.DecoderLife
import ObsZCamera.HwDecode.Decoders
import ObsZCamera.HwDecode.PacketsKept
import ObsZCamera.Misc.SendReceive
import ObsZCamera.HwDecode.PictureTimes
import ObsZCamera.Source.CpuFrames
import ObsZCamera.Source.BuffersFit
import ObsZCamera.Source.ReconnectDelays
import ObsZCamera.Misc.Scan
import ObsZCamera.Misc.ShellWords
import ObsZCamera.Misc.ArgvWords
import ObsZCamera.Connector.ProcessArgs
import ObsZCamera.Source.CameraAddress
import ObsZCamera.Dock.Thumbnails
import ObsZCamera.Dock.FreshThumbnails
import ObsZCamera.Dock.CameraRail
import ObsZCamera.Dock.RailRows
import ObsZCamera.Misc.Regex
import ObsZCamera.Dock.DebugPanel
import ObsZCamera.HwDecode.ExactRbsp
import ObsZCamera.HwDecode.ExactCodes
import ObsZCamera.Misc.Snprintf
import ObsZCamera.HwDecode.GetFormat
import ObsZCamera.HwDecode.PickDevice
import ObsZCamera.CameraCtrl.PtzCapability
import ObsZCamera.Dock.PtzOffers
import ObsZCamera.Dock.PtzPad
import ObsZCamera.Mdns.Substrings
import ObsZCamera.Mdns.EndlessNames
import ObsZCamera.Mdns.MakeString
import ObsZCamera.Mdns.QueryRecv
import ObsZCamera.Mdns.Discovery
import ObsZCamera.Mdns.Listed
import ObsZCamera.HwDecode.DecoderLife
import ObsZCamera.Source.SourceSettings
import ObsZCamera.Source.SettingsAtRest
import ObsZCamera.HwDecode.SoftwareLife
import ObsZCamera.Source.SourceSettles
