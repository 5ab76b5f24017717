import Rowgraph.Unicode.Alphanumeric
import Rowgraph.Unicode.Blank
import Rowgraph.Unicode.Printable
import Rowgraph.Unicode.Lowercase
import Rowgraph.Unicode.Uppercase
import Rowgraph.Text.Quoted
import Rowgraph.Text.Doubled
import Rowgraph.Decimal.Double
import Rowgraph.Uuid
import Rowgraph.Value.Literal
import Rowgraph.Row
import Rowgraph.Json.Codec
import Rowgraph.Entity
import Rowgraph.Inline
import Rowgraph.Alias
import Rowgraph.Condition
import Rowgraph.Selection
import Rowgraph.Grouping
import Rowgraph.Locator
import Rowgraph.Join.Clause
import Rowgraph.Command
import Rowgraph.Query.Select
import Rowgraph.Write.Insert
import Rowgraph.Write.Update
import Rowgraph.Write.Delete
import Rowgraph.Write.Bulk
import Rowgraph.Graph.Assembly
import Rowgraph.Environment
import Rowgraph.Toml.Reader
import Rowgraph.Settings.Discovery
import Rowgraph.Session.Write
import Rowgraph.Session.Script
import Rowgraph.Proofs.Graph.Reference
import Rowgraph.Proofs.Graph.RoundTrip
import Rowgraph.Proofs.Condition.Meaning
import Rowgraph.Proofs.Session.Transaction
import Rowgraph.Proofs.Command.Placeholders
import Rowgraph.Proofs.Selection
import Rowgraph.Proofs.Exchange.Command
import Rowgraph.Proofs.Columns.Resolution
import Rowgraph.Proofs.Session.Rounds
import Rowgraph.Proofs.Session.Refusal
import Rowgraph.Proofs.Command.Required
import Rowgraph.Proofs.Command.Stored
import Rowgraph.Proofs.Condition.Grammar
import Rowgraph.Proofs.Condition.Pattern
import Rowgraph.Proofs.Graph.Readable
import Rowgraph.Proofs.Graph.Renumbered
import Rowgraph.Proofs.Graph.Construction
import Rowgraph.Proofs.Graph.Setters
import Rowgraph.Proofs.Graph.Apart
import Rowgraph.Proofs.Graph.RootKeys
import Rowgraph.Proofs.Graph.Arena
import Rowgraph.Proofs.Graph.ArenaRows
import Rowgraph.Proofs.Graph.ArenaFold
import Rowgraph.Proofs.Graph.Faults
import Rowgraph.Proofs.Condition.Converted
import Rowgraph.Proofs.Condition.Involved
import Rowgraph.Proofs.Condition.Bound
import Rowgraph.Proofs.Selection.Requested
import Rowgraph.Proofs.Command.Layout
import Rowgraph.Proofs.Command.QueryLayout
import Rowgraph.Proofs.Command.Inserted
import Rowgraph.Proofs.Command.Lists
import Rowgraph.Proofs.Command.Shipped
import Rowgraph.Proofs.Command.Reached
import Rowgraph.Proofs.Text.Reading
import Rowgraph.Proofs.Value.Constant
import Rowgraph.Proofs.Inline
import Rowgraph.Proofs.Command.Bracketed
import Rowgraph.Proofs.Command.Upserted
import Rowgraph.Proofs.Command.Body
import Rowgraph.Proofs.Command.Paging
import Rowgraph.Proofs.Command.Grouped
import Rowgraph.Proofs.Command.Tables
import Rowgraph.Proofs.Command.Hints
import Rowgraph.Proofs.Session.First
import Rowgraph.Proofs.Settings.References
import Rowgraph.Proofs.Settings.Spellings
import Rowgraph.Proofs.Parameter.Additions
import Rowgraph.Proofs.Split
import Rowgraph.Proofs.Condition.Restricted
