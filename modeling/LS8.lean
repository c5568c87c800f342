import LS8.Command
import LS8.Main
import LS8.Proofs.Atomicity
import LS8.Proofs.BoundedSink
import LS8.Proofs.LargerMemory
import LS8.Proofs.LastWriter
import LS8.Proofs.LatestComparison
import LS8.Proofs.Lifecycle
import LS8.Proofs.MatchingReturns
import LS8.Proofs.Report
import LS8.Proofs.Rerun
import LS8.Proofs.Slicing
import LS8.Proofs.StackRefinement
import LS8.Proofs.FirstFault
import LS8.Proofs.Stages
import LS8.Proofs.TruthfulLog
import LS8.Proofs.Printout
import LS8.Proofs.Layout
import LS8.Proofs.BoundedRun
import LS8.Proofs.InstructionTable
import LS8.Proofs.Joining
import LS8.Proofs.LineGrammar
import LS8.Proofs.TraceLine
import LS8.Proofs.StraightLine
