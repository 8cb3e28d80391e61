import SchemaChange.UrlDialect

/-!
Opening a database by its address. Which connections can be opened is given as openers, each for the
addresses that begin with its scheme; an address that none of them serves is refused, and so is one
that no dialect belongs to.
-/
namespace SchemaChange

structure Opener (κ : Type) where
  scheme : String
  connect : String → Except Failure κ

variable {κ : Type}

def openAddress (openers : List (Opener κ)) (url : String) : Except Failure κ :=
  match openers.find? fun opener => opener.scheme.toList.isPrefixOf url.toList with
  | some opener => opener.connect url
  | none => .error (.unknownAddress url)

/-- The dialect that the settings ask for and a connection to their address. -/
def openSettings (openers : List (Opener κ)) (settings : Settings) :
    Except Failure (UrlDialect × κ) := do
  let dialect ← UrlDialect.ofSettings settings
  let connection ← openAddress openers settings.url
  return (dialect, connection)

end SchemaChange
