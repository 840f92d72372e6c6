import TreeHaul.Driver.Call
import TreeHaul.Driver.Scripted
import TreeHaul.Factory
import TreeHaul.Files.System
import TreeHaul.Files.Tree
import TreeHaul.Path.Document
import TreeHaul.Proofs.Driver.Comparison
import TreeHaul.Proofs.Driver.Directory
import TreeHaul.Proofs.Driver.Enumeration
import TreeHaul.Proofs.Driver.Failure
import TreeHaul.Proofs.Driver.Footprint
import TreeHaul.Proofs.Driver.Mirror
import TreeHaul.Proofs.Driver.NullTree
import TreeHaul.Proofs.Driver.Protocol
import TreeHaul.Proofs.Driver.Records
import TreeHaul.Proofs.Driver.Reports
import TreeHaul.Proofs.Driver.Staleness
import TreeHaul.Proofs.Driver.Times
import TreeHaul.Proofs.Driver.Transparency
import TreeHaul.Proofs.Factory.Accounting
import TreeHaul.Proofs.Factory.CanonicalPath
import TreeHaul.Proofs.Factory.Crew
import TreeHaul.Proofs.Factory.Custody
import TreeHaul.Proofs.Factory.Release
import TreeHaul.Proofs.Factory.Resolution
import TreeHaul.Proofs.Factory.Suffixes
import TreeHaul.Proofs.Interleaving
import TreeHaul.Proofs.Path.Overflow
import TreeHaul.Proofs.Path.Views
import TreeHaul.Proofs.Store.Collision
import TreeHaul.Proofs.Store.FiniteMap
import TreeHaul.Proofs.Store.Occupancy
import TreeHaul.Proofs.Store.Refusal
import TreeHaul.Proofs.Store.Removal
import TreeHaul.Proofs.Store.Representation
import TreeHaul.Proofs.Store.Resizing
import TreeHaul.Proofs.Store.Stability
import TreeHaul.Proofs.Store.Totals
import TreeHaul.Proofs.Store.Traversal
import TreeHaul.Shared
import TreeHaul.Store.Command
import TreeHaul.Store.Cursor
import TreeHaul.Store.Outline
import TreeHaul.Store.Shape
