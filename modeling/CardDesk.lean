import CardDesk.Main
import CardDesk.Proofs.Crowd
import CardDesk.Proofs.Operation
import CardDesk.Proofs.RegisterInvariant
import CardDesk.Sql.Store
import CardDesk.Sql.Table
import CardDesk.Proofs.Linearizability
import CardDesk.Proofs.Gain
import CardDesk.Proofs.Balance
import CardDesk.Proofs.History
import CardDesk.Proofs.Race
import CardDesk.Proofs.Talk
import CardDesk.Proofs.TableMirror
import CardDesk.Proofs.Session
import CardDesk.Proofs.Deadline
import CardDesk.Proofs.Discretion
import CardDesk.Proofs.Json.Grammar
import CardDesk.Proofs.Json.Strings
import CardDesk.Proofs.Json.Integers
import CardDesk.Proofs.Json.Readers
import CardDesk.Proofs.Json.Items
import CardDesk.Proofs.RequestGrammar
import CardDesk.Proofs.Moments
import CardDesk.Proofs.NormalForm
import CardDesk.Proofs.Verdict
import CardDesk.Proofs.Lookups
import CardDesk.Proofs.Numbering
import CardDesk.Proofs.Confluence
import CardDesk.Proofs.Json.Unambiguous
import CardDesk.Proofs.Json.Writing
import CardDesk.Proofs.Rows
import CardDesk.Proofs.SameMeaning
import CardDesk.Proofs.Transcript
import CardDesk.Proofs.CardGrammar
import CardDesk.Proofs.RoundTrip
import CardDesk.Proofs.Replies
import CardDesk.Proofs.Exchanges
import CardDesk.Proofs.Outcomes
import CardDesk.Proofs.Wraparound
import CardDesk.Proofs.Blanks
import CardDesk.Proofs.Capacity
import CardDesk.Proofs.Migrations
import CardDesk.Proofs.Audit
import CardDesk.Proofs.ForeignMembers
import CardDesk.Proofs.Settings.Sources
