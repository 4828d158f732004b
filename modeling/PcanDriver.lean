import PcanDriver.Lib.StepSystem
import PcanDriver.Lib.StoppedRun
import PcanDriver.Lib.RingLayout
import PcanDriver.Lib.ElementMemory
import PcanDriver.Lib.BoundedQueue
import PcanDriver.Lib.Masks
import PcanDriver.Lib.LossyQueue
import PcanDriver.Lib.Packing
import PcanDriver.Lib.BestScan
import PcanDriver.Lib.FirstAdditions
import PcanDriver.Lib.CStrings
import PcanDriver.Lib.FirstLeast
import PcanDriver.Lib.RoundedDivision
import PcanDriver.Lib.ByteStores
import PcanDriver.Lib.RecordWalk
import PcanDriver.Lib.RecordReader
import PcanDriver.Lib.SharedCount
import PcanDriver.Lib.LineText
import PcanDriver.Lib.CounterExtension
import PcanDriver.Types
import PcanDriver.Fifo
import PcanDriver.FifoRefinement
import PcanDriver.Messages
import PcanDriver.Device
import PcanDriver.RxPath
import PcanDriver.RxEffects
import PcanDriver.RxAccounting
import PcanDriver.FilterChain
import PcanDriver.FilterAdditions
import PcanDriver.BasicFilter
import PcanDriver.Acceptance
import PcanDriver.BusState
import PcanDriver.TxPath
import PcanDriver.TxEncode
import PcanDriver.TxEncodeSpec
import PcanDriver.UsbTelegrams
import PcanDriver.UsbproTelegrams
import PcanDriver.Sja1000Frames
import PcanDriver.UcanCommands
import PcanDriver.SyncTimes
import PcanDriver.TimeArithmetic
import PcanDriver.FreeMinor
import PcanDriver.DriftDivision
import PcanDriver.TxSide
import PcanDriver.UsbWrite
import PcanDriver.UsbWriteSpec
import PcanDriver.Sja1000
import PcanDriver.TxEngine
import PcanDriver.UsbPipeline
import PcanDriver.TxCounter
import PcanDriver.PciTx
import PcanDriver.PciTxProtocol
import PcanDriver.TimeSync
import PcanDriver.StatusRecords
import PcanDriver.StatusPosts
import PcanDriver.StatusConsistency
import PcanDriver.BusReports
import PcanDriver.BusBits
import PcanDriver.UsbDecode
import PcanDriver.UsbproDecode
import PcanDriver.ChannelIsolation
import PcanDriver.UcanBuffer
import PcanDriver.UcanRoundTrip
import PcanDriver.ClosedChannels
import PcanDriver.UcanBounds
import PcanDriver.UsbproBounds
import PcanDriver.PcanUsbDecode
import PcanDriver.PcanUsbBounds
import PcanDriver.PcanUsbTicks
import PcanDriver.UsbproClock
import PcanDriver.Timestamps
import PcanDriver.DataLengths
import PcanDriver.Sja1000Irq
import PcanDriver.OverflowReports
import PcanDriver.ReceiveTimes
import PcanDriver.UsbReadNotify
import PcanDriver.UsbproStream
import PcanDriver.UsbproFragments
import PcanDriver.UsbproTransparent
import PcanDriver.Timing
import PcanDriver.OpenInit
import PcanDriver.AbstractTiming
import PcanDriver.AbstractSearch
import PcanDriver.SamplePoint
import PcanDriver.RateSearch
import PcanDriver.RateResult
import PcanDriver.RateOptimum
import PcanDriver.OpenSpec
import PcanDriver.TimingRegisters
import PcanDriver.MatchedQuanta
import PcanDriver.UcanConversion
import PcanDriver.TimingRange
import PcanDriver.RegisterRates
import PcanDriver.TimingDivisors
import PcanDriver.ClockConversion
import PcanDriver.FoundTimings
import PcanDriver.OpenPaths
import PcanDriver.PathAccounting
import PcanDriver.DeviceOpen
import PcanDriver.InitReadBack
import PcanDriver.UsbOpenCount
import PcanDriver.Options
import PcanDriver.ListIoctl
import PcanDriver.BatchCalls
import PcanDriver.LegacyRead
import PcanDriver.LibMessages
import PcanDriver.InitErrors
import PcanDriver.IoctlCopy
import PcanDriver.AvClocks
import PcanDriver.TextParse
import PcanDriver.Numerals
import PcanDriver.MessageGrammar
import PcanDriver.TextOutput
import PcanDriver.TextRead
import PcanDriver.TextReplay
import PcanDriver.InitStrings
import PcanDriver.InitLines
import PcanDriver.TextWrite
import PcanDriver.TextChunks
import PcanDriver.TextRecovery
import PcanDriver.Lib.CountingScan
import PcanDriver.BasicDevices
import PcanDriver.Lib.KeyedList
import PcanDriver.Lib.KeyedWrites
import PcanDriver.BasicBitrates
import PcanDriver.FdStrings
import PcanDriver.BasicChannels
import PcanDriver.BasicRegistry
import PcanDriver.BasicMessages
import PcanDriver.DriverSystem
import PcanDriver.BasicReset
import PcanDriver.BasicRates
import PcanDriver.Lib.TaggedMailbox
import PcanDriver.PciRx
import PcanDriver.Netdev
import PcanDriver.NetdevStates
import PcanDriver.NetdevQueue
import PcanDriver.UsbRegistry
import PcanDriver.UsbFiles
import PcanDriver.UsbproAnswers
import PcanDriver.UsbproCommands
import PcanDriver.InfoStrings
import PcanDriver.ClassFiles
import PcanDriver.Lib.CommandStream
import PcanDriver.UcanRegisters
import PcanDriver.UcanOpen
import PcanDriver.UcanChannels
