import Debugger.Main
import Debugger.Scenario.DebuggeePlay
import Debugger.Scenario.MachinePlay
import Debugger.Scenario.WirePlay
import Debugger.Report.Settings
import Debugger.Proofs.FailedStep
import Debugger.Proofs.SetAgreement
import Debugger.Proofs.VetoedHit
import Debugger.Proofs.FrameAnswers
import Debugger.Proofs.FrameValidity
import Debugger.Proofs.Invocations
import Debugger.Proofs.HaltedThreads
import Debugger.Proofs.QuietHandling
import Debugger.Proofs.SetResumption
import Debugger.Proofs.DeadThreads
import Debugger.Proofs.FailedResume
import Debugger.Proofs.Revival
import Debugger.Proofs.Termination
import Debugger.Proofs.Attachment
import Debugger.Proofs.CallReplies
import Debugger.Proofs.ConnectionEnd
import Debugger.Proofs.ConnectionRuns
import Debugger.Proofs.SuspendedThreads
import Debugger.Proofs.CompositeEvents
import Debugger.Proofs.RecordedRequests
import Debugger.Proofs.ThreadIsolation
import Debugger.Proofs.MergedFrames
import Debugger.Proofs.CurrentBreakpoints
import Debugger.Proofs.StepInto
import Debugger.Proofs.DropToFrame
import Debugger.Proofs.StepToFrame
import Debugger.Proofs.NativeDrop
import Debugger.Proofs.Evaluations
import Debugger.Proofs.SuspendRequests
import Debugger.Proofs.AskedCommands
import Debugger.Proofs.BreakpointPlaces
import Debugger.Proofs.ClassNames
import Debugger.Proofs.MissingFrames
import Debugger.Proofs.VisibleVariables
import Debugger.Proofs.KeptAnswers
import Debugger.Proofs.PacketStreams
import Debugger.Proofs.ThreadLives
import Debugger.Proofs.HeldSuspensions
import Debugger.Proofs.FilterToggles
import Debugger.Proofs.ClassWalks
import Debugger.Proofs.PredictedSteps
