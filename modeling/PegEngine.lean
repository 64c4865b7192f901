import PegEngine.Source.Basic
import PegEngine.Source.Cursor
import PegEngine.Source.Line
import PegEngine.Text.Ranges
import PegEngine.Text.Printable
import PegEngine.Text.Combining
import PegEngine.Text.Quoted
import PegEngine.Expr.Basic
import PegEngine.Expr.Equality
import PegEngine.Expr.Printer
import PegEngine.Expr.Walk
import PegEngine.Tree.Basic
import PegEngine.Tree.Equality
import PegEngine.Tree.Printer
import PegEngine.Failure.Basic
import PegEngine.Failure.Message
import PegEngine.Failure.Report
import PegEngine.Grammar.Definitions
import PegEngine.Grammar.Basic
import PegEngine.Engine.Event
import PegEngine.Engine.Run
import PegEngine.Engine.Primitive
import PegEngine.Engine.Compound
import PegEngine.Engine.Basic
import PegEngine.Engine.Recognition
import PegEngine.Engine.Parsing
import PegEngine.Session
import PegEngine.Proofs.Uniform
import PegEngine.Proofs.Refinement
import PegEngine.Proofs.Rollback
import PegEngine.Proofs.Simulation
import PegEngine.Proofs.Agreement
import PegEngine.Proofs.Lockstep
import PegEngine.Proofs.Marks
import PegEngine.Proofs.Budget
import PegEngine.Proofs.Steady
import PegEngine.Proofs.Extension
import PegEngine.Proofs.Reading
import PegEngine.Proofs.ReadingSound
import PegEngine.Proofs.ReadingComplete
import PegEngine.Proofs.Adequacy
import PegEngine.Proofs.Termination
import PegEngine.Proofs.Lines
import PegEngine.Proofs.Dialogue
import PegEngine.Proofs.Checked
import PegEngine.Proofs.Harvest
import PegEngine.Proofs.Gathering
import PegEngine.Proofs.CaptureSpans
import PegEngine.Proofs.GatheringSound
import PegEngine.Proofs.Captures
import PegEngine.Proofs.Canonical
import PegEngine.Proofs.Trails
import PegEngine.Proofs.Undefined
import PegEngine.Proofs.Shift
import PegEngine.Proofs.Skipping
import PegEngine.Proofs.Verbatim
import PegEngine.Proofs.Concurrence
import PegEngine.Proofs.Repetition
import PegEngine.Proofs.Synonyms
import PegEngine.Proofs.Unrolling
import PegEngine.Proofs.Anchoring
import PegEngine.Proofs.Regrouping
import PegEngine.Proofs.LineText
import PegEngine.Proofs.LineBreaks
import PegEngine.Proofs.Uncaptured
import PegEngine.Proofs.Mirroring
import PegEngine.Proofs.CapturesInert
import PegEngine.Proofs.FirstOffence
import PegEngine.Proofs.Tokens
import PegEngine.Proofs.Legible
import PegEngine.Proofs.Scanning
import PegEngine.Proofs.SelfReference
import PegEngine.Proofs.Homographs
import PegEngine.Proofs.TreeListing
import PegEngine.Proofs.ForeignCursors
