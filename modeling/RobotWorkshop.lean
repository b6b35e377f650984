import RobotWorkshop.CommandLine.Reply
import RobotWorkshop.Files.Tree
import RobotWorkshop.Main
import RobotWorkshop.Play.NewGame
import RobotWorkshop.Play.Screens
import RobotWorkshop.Proofs.Attempts
import RobotWorkshop.Proofs.Timers
import RobotWorkshop.Script.Report
import RobotWorkshop.Settings.Load
import RobotWorkshop.Yaml.Writing
import RobotWorkshop.Proofs.Execution
import RobotWorkshop.Proofs.RunStage
import RobotWorkshop.Proofs.RunStart
import RobotWorkshop.Proofs.Commands
import RobotWorkshop.Proofs.History
import RobotWorkshop.Proofs.RunInvariant
import RobotWorkshop.Proofs.Surroundings
import RobotWorkshop.Proofs.RunCourse
import RobotWorkshop.Proofs.FrameSize
import RobotWorkshop.Proofs.Outbox
import RobotWorkshop.Proofs.Happenings
import RobotWorkshop.Proofs.FailedStart
import RobotWorkshop.Proofs.Turns
import RobotWorkshop.Proofs.Purchases
import RobotWorkshop.Proofs.Ledger
import RobotWorkshop.Proofs.EventGrammar
import RobotWorkshop.Proofs.EventLog
import RobotWorkshop.Proofs.Parameters
import RobotWorkshop.Proofs.Harvest
import RobotWorkshop.Proofs.Conservation
import RobotWorkshop.Proofs.RootedTrees
import RobotWorkshop.Proofs.UnlockTree
import RobotWorkshop.Proofs.Refusals
import RobotWorkshop.Proofs.Offers
import RobotWorkshop.Proofs.PhaseDiscipline
import RobotWorkshop.Proofs.Acyclicity
import RobotWorkshop.Proofs.BuyingOut
import RobotWorkshop.Proofs.CycleSearch
import RobotWorkshop.Proofs.AcceptedSettings
import RobotWorkshop.Proofs.PacedFrames
import RobotWorkshop.Proofs.ScriptSteps
import RobotWorkshop.Proofs.ScriptedRuns
import RobotWorkshop.Proofs.RunLoops
import RobotWorkshop.Proofs.Metrics
import RobotWorkshop.Proofs.RepeatingTimers
import RobotWorkshop.Proofs.ExpiringTimers
import RobotWorkshop.Proofs.TickCap
import RobotWorkshop.Proofs.Admission
import RobotWorkshop.Proofs.ScreenVisits
import RobotWorkshop.Proofs.ListedCycles
import RobotWorkshop.Proofs.CommandStage
import RobotWorkshop.Proofs.Conversion
import RobotWorkshop.Proofs.InterruptedFrames
import RobotWorkshop.Proofs.SealedRuns
