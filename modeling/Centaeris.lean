import Centaeris.Session.ExecutionLineage
import Centaeris.Session.LedgerArtifacts
import Centaeris.Session.TurnInputs
import Centaeris.Transcript.ContentRange
import Centaeris.Transcript.ViewFreshness
import Centaeris.Transcript.PageAssembly
import Centaeris.Transcript.PageProgress
import Centaeris.Transcript.RecoverySimulation
import Centaeris.Transcript.StoreHistory
import Centaeris.Transcript.SourceWire
import Centaeris.Runtime.HookOrder
import Centaeris.Runtime.CompactionRuns
import Centaeris.Session.ObservationAcceptance
import Centaeris.Jobs.Wakes
import Centaeris.Jobs.SupplementRuns
import Centaeris.Jobs.PollingRuns
import Centaeris.Jobs.WorkerLeases
import Centaeris.Model.PromptExtension
import Centaeris.Web.OperationIdentity
import Centaeris.Tool.TextRead
import Centaeris.Hosted.FilesystemFrame
