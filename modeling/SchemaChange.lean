import SchemaChange.Client.Address
import SchemaChange.Client.Description
import SchemaChange.Database.Recording
import SchemaChange.Database.Scripted
import SchemaChange.Operation
import SchemaChange.Settings.Document
import SchemaChange.Proofs.Plan
import SchemaChange.Proofs.FirstFailure
import SchemaChange.Proofs.IndexGroups
import SchemaChange.Proofs.IndexRemoval
import SchemaChange.Proofs.Token
import SchemaChange.Proofs.Written
import SchemaChange.Proofs.TableTokens
import SchemaChange.Proofs.Schemas
import SchemaChange.Proofs.TableLookup
import SchemaChange.Proofs.LedgerPlace
import SchemaChange.Proofs.SchemaServer
import SchemaChange.Proofs.BackslashLiteral
import SchemaChange.Proofs.DefaultLiteral
import SchemaChange.Proofs.NumeralReading
import SchemaChange.Proofs.NumeralGrammar
import SchemaChange.Proofs.TextForm
import SchemaChange.Proofs.WholeNumbers
import SchemaChange.Proofs.TruthValues
import SchemaChange.Proofs.Session
import SchemaChange.Proofs.NameParts
import SchemaChange.Proofs.Wording
import SchemaChange.Proofs.ClientRun
import SchemaChange.Proofs.ListingOrder
import SchemaChange.Proofs.IndexLookup
import SchemaChange.Proofs.Restatement
import SchemaChange.Proofs.ColumnRenaming
import SchemaChange.Proofs.TableReader
import SchemaChange.Proofs.ClauseReading
import SchemaChange.Proofs.SameTable
import SchemaChange.Proofs.TimeText
import SchemaChange.Proofs.LedgerHost
import SchemaChange.Proofs.LedgerServer
import SchemaChange.Proofs.LedgerRun
import SchemaChange.Proofs.AsciiCase
import SchemaChange.Proofs.LookupCase
import SchemaChange.Proofs.GuardedChanges
import SchemaChange.Proofs.IndexAddress
import SchemaChange.Proofs.Interleaving
import SchemaChange.Proofs.TableRenaming
import SchemaChange.Proofs.SharedLedger
import SchemaChange.Proofs.RecasedRows
import SchemaChange.Proofs.CountingColumns
import SchemaChange.Proofs.ImplicitId
import SchemaChange.Proofs.CurrentTime
import SchemaChange.Proofs.RecordedTimes
import SchemaChange.Proofs.IndexNames
import SchemaChange.Proofs.NamePatterns
import SchemaChange.Proofs.HiddenTables
import SchemaChange.Proofs.NamedColumns
import SchemaChange.Proofs.NameAgreement
import SchemaChange.Proofs.QuotedNames
import SchemaChange.Proofs.GroupedParts
import SchemaChange.Proofs.ColumnSets
