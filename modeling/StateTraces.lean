import StateTraces.Dot.Printer
import StateTraces.Log.Desk
import StateTraces.Log.Template
import StateTraces.Main
import StateTraces.Path
import StateTraces.Proofs.Dot.Printing
import StateTraces.Proofs.Enumeration.Descent
import StateTraces.Proofs.Enumeration.Modes
import StateTraces.Proofs.Enumeration.Window
import StateTraces.Proofs.Cli.Generate
import StateTraces.Proofs.Pipeline.Bench
import StateTraces.Proofs.Pipeline.Bounds
import StateTraces.Proofs.Pipeline.Independence
import StateTraces.Proofs.Pipeline.Lines
import StateTraces.Proofs.Pipeline.Rejection
import StateTraces.Graph.Store
import StateTraces.Proofs.Graph.History
import StateTraces.Proofs.Config.Priority
import StateTraces.Proofs.Dot.Cutting
import StateTraces.Proofs.Dot.Layout
import StateTraces.Proofs.Dot.Relocation
import StateTraces.Proofs.Dot.Completion
import StateTraces.Proofs.Dot.Ending
import StateTraces.Proofs.Dot.Angle
import StateTraces.Proofs.Dot.Filling
import StateTraces.Proofs.Dot.Vertices
import StateTraces.Proofs.Enumeration.Stopping
import StateTraces.Proofs.Subset.Positions
import StateTraces.Proofs.Enumeration.Choices
import StateTraces.Proofs.Graph.Equality
import StateTraces.Proofs.Path.Tour
import StateTraces.Proofs.Config.Switches
import StateTraces.Proofs.Pipeline.Candidates
import StateTraces.Proofs.Log.Written
import StateTraces.Proofs.Enumeration.Snapshot
