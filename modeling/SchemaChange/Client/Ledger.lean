import SchemaChange.Client.Change

/-!
The ledger of a client is a table of the versions that have been applied. Opening a client makes
sure that the table is there; after that, versions are recorded, listed in ascending order and
forgotten.
-/
namespace SchemaChange

structure LedgerEntry where
  version : UInt64
  start : Timestamp
  finish : Timestamp
deriving DecidableEq

namespace LedgerEntry

/-- A time from the text of a cell, which may have a fraction of a second behind a point. -/
def timeOfText (s : String) : Except Failure Timestamp :=
  let text := Timestamp.withoutFraction s
  (Timestamp.ofText text).mapError (.unreadableTime text)

def decodeRow (row : Row) : Except Failure LedgerEntry := do
  let version ← row.get "version"
  let start ← timeOfText (← row.get "start_time")
  let finish ← timeOfText (← row.get "end_time")
  return { version, start, finish }

/-- The values of an entry in the order in which it is recorded. -/
def params (entry : LedgerEntry) : List Value :=
  [encode entry.version, encode entry.start.toText, encode entry.finish.toText]

end LedgerEntry

namespace Client

variable {δ : Type} [Catalog δ] (client : Client δ)

def hasLedger : Action Bool := client.hasTable client.settings.ledgerTable

/-- Creates the ledger unless it is there. -/
def ensureLedger : Action Unit := do
  unless ← client.hasLedger do
    change (Statement.createLedger client.dialect client.settings.ledgerTable)

def ledgerVersions : Action (List UInt64) :=
  Action.queryMap (Statement.ledgerVersions client.dialect client.settings.ledgerTable)
    (·.get "version")

def ledgerEntries : Action (List LedgerEntry) :=
  Action.queryMap (Statement.ledgerEntries client.dialect client.settings.ledgerTable)
    LedgerEntry.decodeRow

def record (entry : LedgerEntry) : Action Unit := do
  let _ ← Action.execute (Statement.recordEntry client.dialect client.settings.ledgerTable)
    entry.params

/-- Forgets a version and tells whether it was recorded. -/
def forget (version : UInt64) : Action Bool := do
  let affected ← Action.execute
    (Statement.removeVersion client.dialect client.settings.ledgerTable) [encode version]
  return 0 < affected

/-- A client over an open connection, with its ledger in place. -/
def opened {δ : Type} [Catalog δ] (dialect : δ) (settings : Settings) : Action (Client δ) := do
  let client : Client δ := { dialect, settings }
  client.ensureLedger
  return client

end Client

end SchemaChange
