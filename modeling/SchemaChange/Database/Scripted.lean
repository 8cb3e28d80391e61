import SchemaChange.Dialogue

/-!
A database that answers by a script. Each rule holds for the statements with a certain beginning and
gives rows to queries, a count to statements that are executed, or a failure to both. The first rule
that fits answers; a rule may be good for a number of calls only. A query that no rule fits has no
rows, and a statement that no rule fits affects none.
-/
namespace SchemaChange.Scripted

inductive Answer where
  | rows (rows : List Row)
  | affected (count : UInt64)
  | failure (f : Failure)
deriving DecidableEq

structure Rule where
  beginning : String
  answer : Answer
  /-- How many calls the rule still answers, if not any number. -/
  remaining? : Option Nat := none
deriving DecidableEq

namespace Rule

def fits (rule : Rule) (sql : String) : Bool :=
  rule.remaining? != some 0 && rule.beginning.toList.isPrefixOf sql.toList

/-- The rule after it has answered a call. -/
def used (rule : Rule) : Rule := { rule with remaining? := rule.remaining?.map (· - 1) }

def queryAnswer? (rule : Rule) : Option (Except Failure (List Row)) :=
  match rule.answer with
  | .rows rows => some (.ok rows)
  | .affected _ => none
  | .failure f => some (.error f)

def executeAnswer? (rule : Rule) : Option (Except Failure UInt64) :=
  match rule.answer with
  | .rows _ => none
  | .affected count => some (.ok count)
  | .failure f => some (.error f)

end Rule

/-- The answer of the first rule that fits and has one, and the script after it. -/
def firstAnswer {α : Type} (answer? : Rule → Option α) (sql : String) :
    List Rule → Option α × List Rule
  | [] => (none, [])
  | rule :: rest =>
    match if rule.fits sql then answer? rule else none with
    | some answer => (some answer, rule.used :: rest)
    | none =>
      let (found, rest) := firstAnswer answer? sql rest
      (found, rule :: rest)

def database : Database (List Rule) where
  query sql _ script :=
    let (found, script) := firstAnswer Rule.queryAnswer? sql script
    (found.getD (.ok []), script)
  execute sql _ script :=
    let (found, script) := firstAnswer Rule.executeAnswer? sql script
    (found.getD (.ok 0), script)

end SchemaChange.Scripted
