import UzFlowMeter.Activity
import UzFlowMeter.BulkRates
import UzFlowMeter.BulkSegmentation
import UzFlowMeter.ByteOverflow
import UzFlowMeter.Capture
import UzFlowMeter.CapturedBytes
import UzFlowMeter.CollectionProgress
import UzFlowMeter.DefinedRows
import UzFlowMeter.Definedness
import UzFlowMeter.Demultiplexing
import UzFlowMeter.Disguise
import UzFlowMeter.Dispersion
import UzFlowMeter.Expiry
import UzFlowMeter.ExportedTimes
import UzFlowMeter.ForwardHeaders
import UzFlowMeter.HeaderLengths
import UzFlowMeter.InitialWindows
import UzFlowMeter.Interarrival
import UzFlowMeter.Modes
import UzFlowMeter.NonInterference
import UzFlowMeter.Release
import UzFlowMeter.SegmentWalk
import UzFlowMeter.Segments
import UzFlowMeter.SessionMemory
import UzFlowMeter.TimeShift
