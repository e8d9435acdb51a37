import Manuscript.Build.Simulated
import Manuscript.Main
import Manuscript.Repair.Engine
import Manuscript.Proofs.Pattern.Place
import Manuscript.Proofs.Pattern.Repetition
import Manuscript.Proofs.Pattern.Reading
import Manuscript.Proofs.Pattern.Cutting
import Manuscript.Proofs.Pattern.Shape
import Manuscript.Proofs.Repair.Passes
import Manuscript.Proofs.Repair.Conservation
import Manuscript.Proofs.Repair.Convergence
import Manuscript.Proofs.Pattern.Building
import Manuscript.Proofs.Repair.Markup
import Manuscript.Proofs.Repair.Turning
import Manuscript.Proofs.Repair.Plain
import Manuscript.Proofs.Repair.Nesting
import Manuscript.Proofs.Repair.Restoration
import Manuscript.Proofs.Repair.Iteration
import Manuscript.Proofs.Report.Log
import Manuscript.Proofs.Build.Answer
import Manuscript.Proofs.Pipeline.Verdict
import Manuscript.Proofs.Structure.Braces
import Manuscript.Proofs.Repair.Unescaping
import Manuscript.Proofs.Repair.Balance
import Manuscript.Proofs.Lists.Association
import Manuscript.Proofs.Disk.Tree
import Manuscript.Proofs.Disk.Walk
import Manuscript.Proofs.Disk.Naming
import Manuscript.Proofs.Disk.Operation
import Manuscript.Proofs.Build.Artifact
import Manuscript.Proofs.Disk.Footprint
import Manuscript.Proofs.Disk.Directory
import Manuscript.Proofs.Disk.Plan
import Manuscript.Proofs.Disk.Listing
import Manuscript.Proofs.Path.Order
import Manuscript.Proofs.Project.Stubbing
import Manuscript.Proofs.Project.Inside
import Manuscript.Proofs.Build.Preservation
import Manuscript.Proofs.Pipeline.Preservation
import Manuscript.Proofs.Pipeline.Launcher
import Manuscript.Proofs.Repair.Safety
import Manuscript.Proofs.Disk.Orderly
import Manuscript.Proofs.Disk.Retention
import Manuscript.Proofs.Repair.Discovery
import Manuscript.Proofs.Repair.Session
import Manuscript.Proofs.Text.Utf8
import Manuscript.Proofs.Json.Printing
import Manuscript.Proofs.Json.Record
import Manuscript.Proofs.Json.Thinning
import Manuscript.Proofs.Report.Reading
import Manuscript.Proofs.Disk.Creation
import Manuscript.Proofs.Config.Reading
import Manuscript.Proofs.Config.Loading
import Manuscript.Proofs.Repair.Rehearsal
import Manuscript.Proofs.Repair.Accounting
import Manuscript.Proofs.Project.Providing
import Manuscript.Proofs.Pipeline.Lookup
import Manuscript.Proofs.Repair.Idle
import Manuscript.Proofs.Text.Lines
import Manuscript.Proofs.Scan.Command
import Manuscript.Proofs.Scan.Searching
import Manuscript.Proofs.Scan.Declared
import Manuscript.Proofs.Scan.Removal
import Manuscript.Proofs.Scan.Source
import Manuscript.Proofs.Build.BasicDocument
import Manuscript.Proofs.Build.StyleLayer
import Manuscript.Proofs.Lists.Distinct
import Manuscript.Proofs.Scan.Composition
import Manuscript.Proofs.Scan.Recovery
import Manuscript.Proofs.Scan.Comment
import Manuscript.Proofs.Project.Reporting
import Manuscript.Proofs.Structure.Brackets
import Manuscript.Proofs.Structure.Imbalance
import Manuscript.Proofs.Structure.Environments
import Manuscript.Proofs.Project.Confinement
import Manuscript.Proofs.Text.Case
import Manuscript.Proofs.Structure.Silence
import Manuscript.Proofs.Project.Placeholder
