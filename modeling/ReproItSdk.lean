import ReproItSdk.Library.KeyedTable
import ReproItSdk.Library.Runs
import ReproItSdk.Library.Fallible
import ReproItSdk.Library.Separated
import ReproItSdk.Library.Unicode
import ReproItSdk.Library.Rewriting
import ReproItSdk.Library.Json
import ReproItSdk.Library.JsonStrings
import ReproItSdk.Library.JsonWriter
import ReproItSdk.Library.Decimal
import ReproItSdk.Library.Base64
import ReproItSdk.Library.Rounding
import ReproItSdk.Core.Model
import ReproItSdk.World.Spool
import ReproItSdk.World.Coordinator
import ReproItSdk.World.Artifacts
import ReproItSdk.World.Calls
import ReproItSdk.World.Close
import ReproItSdk.World.Effects
import ReproItSdk.World.Publications
import ReproItSdk.World.History
import ReproItSdk.World.Tracking
import ReproItSdk.World.FailClosed
import ReproItSdk.World.Positions
import ReproItSdk.World.ClosedWorld
import ReproItSdk.Managed.ArtifactSet
import ReproItSdk.Managed.ArtifactNames
import ReproItSdk.Managed.PreparedObjects
import ReproItSdk.Managed.DependencyClosure
import ReproItSdk.Sdk.Resources
import ReproItSdk.Sdk.State
import ReproItSdk.Sdk.LostRecords
import ReproItSdk.Sdk.FailureStorm
import ReproItSdk.Process.Queue
import ReproItSdk.Process.Conservation
import ReproItSdk.Process.Recorder
import ReproItSdk.Process.Model
import ReproItSdk.Process.Effects
import ReproItSdk.Process.Custody
import ReproItSdk.Process.Ledger
import ReproItSdk.Process.Handoff
import ReproItSdk.Sdk.RecallAccounting
import ReproItSdk.RequestResponse.Emission
import ReproItSdk.RequestResponse.ExactResponse
import ReproItSdk.Engine.TaskProtocol
import ReproItSdk.Engine.SemanticDependency
import ReproItSdk.Engine.Registry
import ReproItSdk.Engine.Calls
import ReproItSdk.Engine.System
import ReproItSdk.Engine.Steps
import ReproItSdk.Engine.CallSteps
import ReproItSdk.Engine.Integrity
import ReproItSdk.Engine.Burden
import ReproItSdk.Engine.Custody
import ReproItSdk.Engine.FailOnce
import ReproItSdk.Engine.Residue
import ReproItSdk.Engine.Attribution
import ReproItSdk.Sentinel.Evidence
import ReproItSdk.Sentinel.Tracking
import ReproItSdk.Canonical.GoRoundTrip
import ReproItSdk.Canonical.JsonReader
import ReproItSdk.Canonical.Encoders
import ReproItSdk.Canonical.Agreement
import ReproItSdk.Wrappers.Interaction
import ReproItSdk.Wrappers.Dependency
import ReproItSdk.Wrappers.Observation
import ReproItSdk.Wrappers.NativeBridge
import ReproItSdk.Wrappers.GoDependency
import ReproItSdk.Wrappers.GoRandom
import ReproItSdk.Wrappers.GoHttp
import ReproItSdk.Wrappers.DotNetDependency
import ReproItSdk.Wrappers.DotNetHttp
import ReproItSdk.Sqlite.Requests
import ReproItSdk.Sqlite.Payloads
import ReproItSdk.Sqlite.Python
import ReproItSdk.Sqlite.PythonAlone
import ReproItSdk.Sqlite.Node
import ReproItSdk.Sqlite.NodeAlone
import ReproItSdk.Sqlite.Identity
import ReproItSdk.Operations.NativeOperation
import ReproItSdk.Operations.AmbientContexts
import ReproItSdk.Subject.PythonClosure
import ReproItSdk.Subject.Bookkeeping
import ReproItSdk.Subject.CaptureOrder
import ReproItSdk.Replay.Adapters
import ReproItSdk.Replay.Extension
import ReproItSdk.Replay.HookedCalls
import ReproItSdk.Replay.SameRequests
import ReproItSdk.Runtime.WallClock
import ReproItSdk.Runtime.NodeObservation
import ReproItSdk.Runtime.NodeReads
import ReproItSdk.Runtime.PythonObservation
import ReproItSdk.Runtime.RecordedErrors
import ReproItSdk.Http.Headers
import ReproItSdk.Http.NodeResponse
import ReproItSdk.Http.NodeStream
import ReproItSdk.Http.PythonResponse
import ReproItSdk.Http.PythonOverlap
import ReproItSdk.Operations.FuzzScopes
import ReproItSdk.World.ReplayReads
import ReproItSdk.Subject.RustPackage
import ReproItSdk.Library.Ascending
import ReproItSdk.Subject.RustSpool
import ReproItSdk.Subject.RustPaths
import ReproItSdk.Subject.NodeClosure
import ReproItSdk.Runtime.NodeFills
import ReproItSdk.Http.GoMetadata
import ReproItSdk.Http.GoRequest
import ReproItSdk.Http.FuzzedHops
import ReproItSdk.Http.GoBody
import ReproItSdk.Canonical.GoReading
import ReproItSdk.Http.GoStrings
import ReproItSdk.Http.GoRecord
import ReproItSdk.Http.GoReplay
import ReproItSdk.Library.Worklist
import ReproItSdk.Subject.PythonDistributions
import ReproItSdk.Subject.PythonImports
import ReproItSdk.Library.Windows
import ReproItSdk.Subject.DwarfMarkers
import ReproItSdk.Library.Ascii
import ReproItSdk.Library.Lines
import ReproItSdk.Managed.Transport
import ReproItSdk.Library.Scanning
import ReproItSdk.Subject.NodeSourceMap
import ReproItSdk.Wrappers.GoObservation
import ReproItSdk.Library.Patches
import ReproItSdk.Replay.PythonHooks
import ReproItSdk.Replay.NodeHooks
import ReproItSdk.Wrappers.GoAttribution
import ReproItSdk.Managed.IdentityFiles
