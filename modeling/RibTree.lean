import RibTree.Console.CommandLine
import RibTree.Fault
import RibTree.Main
import RibTree.Proofs.Host.Results
import RibTree.Proofs.Outline.Forest
import RibTree.Proofs.Outline.Grammar
import RibTree.Proofs.Outline.Indentation
import RibTree.Proofs.Outline.Prose
import RibTree.Proofs.Outline.Tree
import RibTree.Proofs.Run.Commutation
import RibTree.Proofs.Run.Composition
import RibTree.Proofs.Run.Containment
import RibTree.Proofs.Run.History
import RibTree.Proofs.Run.Links
import RibTree.Proofs.Run.Preservation
import RibTree.Proofs.Run.Retry
import RibTree.Proofs.Run.Scaffold
import RibTree.Proofs.Step.Answer
import RibTree.Settings.Decode
import RibTree.Store.Host
import RibTree.Value.Read
import RibTree.Proofs.Run.Accounting
import RibTree.Proofs.Run.Attribution
import RibTree.Proofs.Disk.Listing
import RibTree.Proofs.Disk.Place
import RibTree.Proofs.Disk.Access
import RibTree.Proofs.Disk.Mirror
import RibTree.Proofs.Step.Mirror
import RibTree.Proofs.Run.Agreement
import RibTree.Proofs.Run.Sources
import RibTree.Proofs.Store.Journal
import RibTree.Proofs.Value.Line
import RibTree.Proofs.Console.Json
import RibTree.Proofs.Console.Presentation
import RibTree.Proofs.Text.Utf8
import RibTree.Proofs.Declaration.Occurrence
import RibTree.Proofs.Declaration.Placement
import RibTree.Proofs.Request.Options
import RibTree.Proofs.Run.Indexing
import RibTree.Proofs.Template.Pieces
