import VirtualCamera.Library.Transition
import VirtualCamera.Library.Memory
import VirtualCamera.Rtp.Session
import VirtualCamera.Rtp.Slices
import VirtualCamera.Rtp.Timestamps
import VirtualCamera.Library.Reassembly
import VirtualCamera.Service.Receive
import VirtualCamera.Service.BufferSafety
import VirtualCamera.Service.Fragments
import VirtualCamera.Service.RoundTrip
import VirtualCamera.Service.Loss
import VirtualCamera.Service.Isolation
import VirtualCamera.Decoder.Model
import VirtualCamera.Decoder.Order
import VirtualCamera.Session.Accounting
import VirtualCamera.Library.Assoc
import VirtualCamera.Session.Streams
import VirtualCamera.Session.Configure
import VirtualCamera.Session.Request
import VirtualCamera.Library.Custody
import VirtualCamera.Session.Pipeline
import VirtualCamera.Session.Holding
import VirtualCamera.Session.Progress
import VirtualCamera.Session.Conservation
import VirtualCamera.Session.Flushing
import VirtualCamera.Service.Lifecycle
import VirtualCamera.Service.Threads
import VirtualCamera.Service.DataAccess
import VirtualCamera.Service.Stopping
import VirtualCamera.Session.Cropping
import VirtualCamera.Session.Rounds
import VirtualCamera.Session.ScaledFrames
import VirtualCamera.Session.Intermediate
import VirtualCamera.Session.Caches
import VirtualCamera.Session.CacheKeys
import VirtualCamera.Common.EventLoop
import VirtualCamera.Common.Slots
import VirtualCamera.Encoder.Wakeup
import VirtualCamera.Encoder.Muxer
import VirtualCamera.Library.Statics
import VirtualCamera.Session.Conversion
import VirtualCamera.Session.Staging
import VirtualCamera.Encoder.StartCount
import VirtualCamera.Library.Cursor
import VirtualCamera.Provider.StatusView
import VirtualCamera.CameraService.InFlight
import VirtualCamera.CameraService.Results
import VirtualCamera.Session.PreviewBuffers
import VirtualCamera.CameraService.Buffers
import VirtualCamera.CameraService.Flush
import VirtualCamera.CameraService.Malformed
import VirtualCamera.CameraService.Frames
import VirtualCamera.CameraService.Completion
import VirtualCamera.RequestThread.Settings
import VirtualCamera.RequestThread.Triggers
import VirtualCamera.RequestThread.Corrections
import VirtualCamera.RequestThread.Model
import VirtualCamera.RequestThread.Numbers
import VirtualCamera.RequestThread.Edits
import VirtualCamera.RequestThread.Outcomes
import VirtualCamera.RequestThread.Reuse
import VirtualCamera.RequestThread.Delivery
import VirtualCamera.RequestThread.Delivered
import VirtualCamera.ClientManager.Eviction
import VirtualCamera.ClientManager.Listener
import VirtualCamera.BufferManager.Model
import VirtualCamera.BufferManager.Registration
import VirtualCamera.BufferManager.Counts
import VirtualCamera.StatusTracker.Model
import VirtualCamera.StatusTracker.Notifications
import VirtualCamera.Submission.Model
import VirtualCamera.Submission.Partial
import VirtualCamera.Preparer.Model
import VirtualCamera.Preparer.Kept
import VirtualCamera.CaptureSequencer.Model
import VirtualCamera.CaptureSequencer.Freshness
import VirtualCamera.Library.Threads
import VirtualCamera.Splitter.Model
import VirtualCamera.Splitter.Connection
import VirtualCamera.Splitter.Mirror
import VirtualCamera.Session.StreamOff
import VirtualCamera.Decoder.Capacity
import VirtualCamera.Library.Raster
import VirtualCamera.Decoder.Frames
import VirtualCamera.Rtp.Limits
import VirtualCamera.Session.CropRect
import VirtualCamera.Session.Layout
import VirtualCamera.Session.SubImage
import VirtualCamera.Session.Selection
import VirtualCamera.RingBuffer.Model
import VirtualCamera.RingBuffer.Pins
import VirtualCamera.Library.Ledger
import VirtualCamera.Session.OneRequest
import VirtualCamera.Session.RequestModels
import VirtualCamera.Session.FrameRates
import VirtualCamera.Session.Reconfigure
import VirtualCamera.Session.Atomicity
import VirtualCamera.Library.Stores
import VirtualCamera.Service.Surface
import VirtualCamera.Service.Yuv420
import VirtualCamera.Service.ProduceFrame
import VirtualCamera.Encoder.Chunking
import VirtualCamera.Session.Thumbnail
import VirtualCamera.Jpeg.Encoder
import VirtualCamera.Jpeg.Rows
import VirtualCamera.Jpeg.Blob
import VirtualCamera.Jpeg.Reporting
import VirtualCamera.Session.Nv12
import VirtualCamera.ClientManager.Removal
import VirtualCamera.Library.Sweep
import VirtualCamera.ClientManager.Policy
import VirtualCamera.ClientManager.Reasons
import VirtualCamera.BufferManager.FailedRequests
import VirtualCamera.Config.FpsList
import VirtualCamera.Library.Tokens
import VirtualCamera.Library.Strtol
import VirtualCamera.Service.DottedQuad
import VirtualCamera.Session.IrLimit
import VirtualCamera.Library.Allocations
import VirtualCamera.Session.MemManager
import VirtualCamera.Session.ZoomCrop
import VirtualCamera.Session.StreamConfigs
import VirtualCamera.Library.Rounding
import VirtualCamera.Mapper.Coordinates
import VirtualCamera.Mapper.RotateAndCrop
import VirtualCamera.Mapper.ZoomRatio
import VirtualCamera.Stream.Model
import VirtualCamera.Stream.Timestamps
import VirtualCamera.Stream.Prepare
import VirtualCamera.Stream.Configuration
import VirtualCamera.CameraService.PartialKeys
import VirtualCamera.CameraService.StreamBuffers
import VirtualCamera.Parameters.Areas
import VirtualCamera.RingBuffer.Finder
import VirtualCamera.CameraService.Lending
import VirtualCamera.CameraService.Rollback
import VirtualCamera.Library.SlotQueue
import VirtualCamera.Zsl.Metadata
import VirtualCamera.Zsl.Model
import VirtualCamera.Zsl.Reprocess
import VirtualCamera.Zsl.Leftovers
import VirtualCamera.Library.Wire
import VirtualCamera.Library.Unwrap
import VirtualCamera.Library.Reorder
import VirtualCamera.Rtp.Packet
import VirtualCamera.Rtp.PacketFormat
import VirtualCamera.Rtp.PacketRoundTrip
import VirtualCamera.Rtp.SourceStats
import VirtualCamera.Rtp.Source
import VirtualCamera.Rtp.SourceQueue
import VirtualCamera.Rtp.Delivery
import VirtualCamera.Rtp.Stream
import VirtualCamera.Service.Transport
import VirtualCamera.Library.Linked
import VirtualCamera.Library.CursorTable
import VirtualCamera.Rtp.KeyHashTable
import VirtualCamera.Rtp.HashTableRefinement
import VirtualCamera.Rtp.Sources
import VirtualCamera.Rtp.SourceCounts
import VirtualCamera.Rtp.SourceAddresses
import VirtualCamera.Library.Groups
import VirtualCamera.Rtp.RtcpPacket
import VirtualCamera.Rtp.SDESFormat
import VirtualCamera.Rtp.RtcpReading
import VirtualCamera.Rtp.CompoundBuilder
import VirtualCamera.Rtp.CompoundInput
import VirtualCamera.Rtp.CompoundSizes
import VirtualCamera.Rtp.CompoundRoundTrip
import VirtualCamera.Library.Halting
import VirtualCamera.Rtp.Incoming
