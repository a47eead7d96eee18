import RamkolFX.Support.BigEndian
import RamkolFX.Support.Binary32
import RamkolFX.Support.NumberText
import RamkolFX.Support.Binary32Arith
import RamkolFX.Support.KeyValueText
import RamkolFX.Support.Clamp
import RamkolFX.Support.ByteReader
import RamkolFX.Support.Framing
import RamkolFX.Support.Runs
import RamkolFX.Support.Interleaving
import RamkolFX.Support.Updates
import RamkolFX.Support.Crossfade
import RamkolFX.Support.Transducer
import RamkolFX.Support.Files
import RamkolFX.Support.Fourier
import RamkolFX.Support.Convolution
import RamkolFX.Support.SecondOrder
import RamkolFX.Support.FeedbackPeriod
import RamkolFX.Support.Bisimulation
import RamkolFX.Support.Seams
import RamkolFX.Protocol.Types
import RamkolFX.Protocol.Wire
import RamkolFX.Protocol.Commands
import RamkolFX.Protocol.RequestRoundTrip
import RamkolFX.Protocol.RequestFraming
import RamkolFX.Protocol.DecodeBounds
import RamkolFX.Protocol.Responses
import RamkolFX.Protocol.ListResponses
import RamkolFX.Protocol.StateResponses
import RamkolFX.Protocol.ResponseBounds
import RamkolFX.Protocol.ResponseGrammar
import RamkolFX.Protocol.ResponseStrictness
import RamkolFX.Protocol.RequestGrammar
import RamkolFX.Control.Frames
import RamkolFX.Control.ControlServer
import RamkolFX.Dsp.FloatArith
import RamkolFX.Dsp.CrossfadingSlot
import RamkolFX.Dsp.SlotRuns
import RamkolFX.Dsp.SlotGarbage
import RamkolFX.Dsp.SlotWeights
import RamkolFX.Dsp.SpeakerLayout
import RamkolFX.Dsp.DspStages
import RamkolFX.Dsp.HrtfFilter
import RamkolFX.Dsp.PartitionedConvolver
import RamkolFX.Dsp.BinauralVoice
import RamkolFX.Dsp.BinauralStage
import RamkolFX.Dsp.ToggleWeights
import RamkolFX.Dsp.ConvolverStream
import RamkolFX.Dsp.ConvolverRuns
import RamkolFX.Dsp.OverlapSave
import RamkolFX.Dsp.ExactArith
import RamkolFX.Dsp.AmbisonicsBound
import RamkolFX.Dsp.HeadSymmetry
import RamkolFX.Dsp.NearFieldConvolution
import RamkolFX.Dsp.NearFieldGain
import RamkolFX.Dsp.RoundedArith
import RamkolFX.Dsp.HrtfDeck
import RamkolFX.Dsp.VoicePositions
import RamkolFX.Dsp.DirectVoice
import RamkolFX.Dsp.DirectStage
import RamkolFX.Dsp.Equalizer
import RamkolFX.Dsp.BiquadStability
import RamkolFX.Dsp.StageBuffers
import RamkolFX.Dsp.BlockCuts
import RamkolFX.Dsp.FlatCurve
import RamkolFX.Dsp.LastPublished
import RamkolFX.Dsp.DeckSeams
import RamkolFX.Dsp.ToggleSlot
import RamkolFX.Dsp.EqResponse
import RamkolFX.Dsp.EqRuns
import RamkolFX.Dsp.FilterLevel
import RamkolFX.Control.ServerStop
import RamkolFX.Common.RingBuffer
import RamkolFX.Common.RingBufferQueue
import RamkolFX.Common.RingBufferThreads
import RamkolFX.Common.RingBufferRuns
import RamkolFX.Daemon.SettingsStore
import RamkolFX.Daemon.DeviceRegistry
import RamkolFX.Daemon.DeviceHistory
import RamkolFX.Daemon.DefaultSink
import RamkolFX.Daemon.HardwareOutput
import RamkolFX.Daemon.OutputReconnect
import RamkolFX.Daemon.HrtfCatalog
import RamkolFX.Daemon.AudioEngine
import RamkolFX.Daemon.ControlCommands
import RamkolFX.Daemon.EngineSteps
import RamkolFX.Daemon.CommandBounds
import RamkolFX.Daemon.MutedSpeakers
import RamkolFX.Daemon.OutputTarget
import RamkolFX.Daemon.SavedSettings
import RamkolFX.Daemon.LoadedEnumerators
import RamkolFX.Daemon.ResponseSize
import RamkolFX.Daemon.VoicePositions
import RamkolFX.Daemon.Restart
import RamkolFX.Daemon.SpeakerDistances
import RamkolFX.Daemon.NameInjection
import RamkolFX.Daemon.SettingsRoundTrip
import RamkolFX.Daemon.ActiveHrtf
import RamkolFX.Daemon.UserDirectory
import RamkolFX.Daemon.CatalogOrder
import RamkolFX.Daemon.DirectoryWatch
import RamkolFX.Daemon.HrtfRestart
import RamkolFX.Daemon.HrtfHandlers
import RamkolFX.Daemon.FilterHandlers
import RamkolFX.Daemon.SaveHandlers
import RamkolFX.Daemon.SettingsFile
import RamkolFX.Daemon.StereoMix
import RamkolFX.Daemon.TestNoise
import RamkolFX.Daemon.OutputLevel
import RamkolFX.Daemon.BlockSizes
import RamkolFX.Daemon.SingleInstanceLock
import RamkolFX.Daemon.Instances
import RamkolFX.Gui.ControlClient
import RamkolFX.Gui.ClientCalls
import RamkolFX.Gui.CatalogView
import RamkolFX.Gui.CatalogChoice
import RamkolFX.Gui.Traffic
import RamkolFX.Gui.OwnAnswers
import RamkolFX.Gui.PositionDial
import RamkolFX.Gui.SpatialTab
import RamkolFX.Gui.SpeakerDrag
import RamkolFX.Gui.Linearization
import RamkolFX.Gui.EqTab
import RamkolFX.Gui.EqCoherence
import RamkolFX.Dsp.DeckSeams
import RamkolFX.Dsp.ToggleSlot
