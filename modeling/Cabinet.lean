import Cabinet.Assignment
import Cabinet.Backups
import Cabinet.CommandLine.Run
import Cabinet.CommandLine.Usage
import Cabinet.Display
import Cabinet.Main
import Cabinet.Proofs.Backups.Failure
import Cabinet.Proofs.Column.TagSets
import Cabinet.Proofs.Column.Takes
import Cabinet.Proofs.Databases.Collision
import Cabinet.Proofs.Name.Forms
import Cabinet.Proofs.Query.Lexing
import Cabinet.Proofs.Query.Precedence
import Cabinet.Proofs.Query.Rendering
import Cabinet.Proofs.Record.Normal
import Cabinet.Proofs.Record.Order
import Cabinet.Proofs.Record.Writable
import Cabinet.Proofs.Run.Absent
import Cabinet.Proofs.Run.Agreement
import Cabinet.Proofs.Run.Clients
import Cabinet.Proofs.Run.Contents
import Cabinet.Proofs.Run.Copies
import Cabinet.Proofs.Run.Documents
import Cabinet.Proofs.Run.Failure
import Cabinet.Proofs.Run.Frame
import Cabinet.Proofs.Run.Ids
import Cabinet.Proofs.Run.Isolation
import Cabinet.Proofs.Run.Lifecycle
import Cabinet.Proofs.Run.Listing
import Cabinet.Proofs.Run.Order
import Cabinet.Proofs.Run.Pages
import Cabinet.Proofs.Run.Patterns
import Cabinet.Proofs.Run.Records
import Cabinet.Proofs.Run.References
import Cabinet.Proofs.Run.Rows
import Cabinet.Proofs.Run.Search
import Cabinet.Proofs.Run.Visibility
import Cabinet.Proofs.Schema.Contents
import Cabinet.Proofs.Schema.Making
import Cabinet.Proofs.Schema.Order
import Cabinet.Proofs.Search.Answers
import Cabinet.Proofs.Search.Days
import Cabinet.Proofs.Search.Integers
import Cabinet.Proofs.Search.Part
import Cabinet.Proofs.Search.Placeholders
import Cabinet.Proofs.Workspace.Clients
import Cabinet.ReadingList
import Cabinet.Rows
import Cabinet.Settings
import Cabinet.Storage.Declaration
import Cabinet.Workspace.Snapshot
