import SchemaChange.Proofs.Interleaving
import SchemaChange.Proofs.LedgerPlace

/-!
Two clients that open one database at once. Each looks for the ledger and creates it when it is not
there, in two calls between which the other may make its own. Whatever the order of the calls, the
ledger is created once if it is missing and then it is there. When the clients take turns, one after
the other, both are opened. When the second looks before the first has created, both try to create
the ledger; the one that comes too late fails with what the database answers it, and its client is
not opened.
-/
namespace SchemaChange

section

variable {σ δ : Type} [Catalog δ] (client : Client δ)

/-- The ledger as it is listed. -/
abbrev ledgerName : String := Text.QualifiedName.table client.settings.ledgerTable

/-- The query that shows whether the ledger is there. -/
def ledgerQuery : String :=
  Dialect.listTables client.dialect (lookupSchema? client client.settings.ledgerTable)

/-- The statement that creates the ledger. -/
def ledgerStatement : String :=
  Statement.createLedger client.dialect client.settings.ledgerTable

/-- The database shows its tables, and it creates the ledger unless it has one already. -/
structure SharesLedger (db : Database σ) (view : σ → Schemas) : Prop
    extends ShowsTables client.dialect db view where
  creates (s : σ) :
    match db.execute (ledgerStatement client) [] s with
    | (.ok _, s') =>
      ledgerName client ∉ (view s).tables (ledgerPlace client (view s)) ∧
        view s' = (view s).add (ledgerPlace client (view s)) (ledgerName client)
    | (.error _, s') =>
      (view s).Has (ledgerPlace client (view s)) (ledgerName client) ∧ view s' = view s

/-- The schemas with the ledger in its place. -/
def withLedger (schemas : Schemas) : Schemas :=
  schemas.add (ledgerPlace client schemas) (ledgerName client)

/-- The opening of a client. -/
def opening : Dialogue (Except Failure (Client δ)) :=
  ExceptT.run (Client.opened client.dialect client.settings)

/-- The opening of a client that has not found the ledger. -/
def creating : Dialogue (Except Failure (Client δ)) :=
  ExceptT.run do
    let _ ← Action.execute (ledgerStatement client)
    return client

theorem opened_eq :
    Client.opened client.dialect client.settings =
      Action.queryMap (ledgerQuery client) (Catalog.decodeTable client.dialect) >>= fun names =>
        if isListed client.settings.ledgerTable names then pure client
        else do
          let _ ← Action.execute (ledgerStatement client)
          return client := by
  simp only [Client.opened, Client.ensureLedger, Client.hasLedger, Client.hasTable, Client.tablesIn,
    Client.change, bind_assoc, pure_bind]
  congr 1
  funext names
  change ((if isListed client.settings.ledgerTable names then pure ()
    else do
      let _ ← Action.execute (ledgerStatement client)
      pure ()) >>= fun _ => (pure client : Action (Client δ))) = _
  cases isListed client.settings.ledgerTable names with
  | true => rfl
  | false => simp

theorem endsWithin_opening : (opening client).EndsWithin 2 := by
  rw [opening, opened_eq]
  refine Action.endsWithin_queryMap_bind fun names => ?_
  cases isListed client.settings.ledgerTable names with
  | true => exact .done 1 (Except.ok client)
  | false => exact Action.endsWithin_execute_bind fun count => .done 0 (Except.ok client)

end

section

variable {σ δ : Type} [Catalog δ] {client : Client δ} {db : Database σ} {view : σ → Schemas}

omit [Catalog δ] in
theorem ledgerLookup_eq (hdatabase : client.settings.database? = none) (schemas : Schemas) :
    ledgerLookup client schemas = ledgerPlace client schemas :=
  (ledgerLookup_eq_iff client schemas).mpr (Or.inr (Or.inl hdatabase))

omit [Catalog δ] in
/-- The ledger is shown once it is in its place. -/
theorem showsLedger_withLedger (hdatabase : client.settings.database? = none) (schemas : Schemas) :
    ShowsLedger client (withLedger client schemas) := by
  rw [ShowsLedger, ledgerLookup_eq hdatabase]
  exact Schemas.has_add_self schemas _ _

omit [Catalog δ] in
theorem mem_withLedger (schemas : Schemas) :
    ledgerName client ∈ (withLedger client schemas).tables
      (ledgerPlace client (withLedger client schemas)) := by
  change _ ∈ (schemas.add _ _).tables (ledgerPlace client schemas)
  rw [Schemas.tables_add, if_pos rfl]
  exact Set.mem_insert _ _

namespace SharesLedger

variable (shares : SharesLedger client db view) {s : σ} {schemas : Schemas}
  (hschemas : view s = schemas)
include shares hschemas

/-- The first call of a client either finds the ledger or leads to the second. -/
theorem exists_step?_opening : ∃ rows s' next, view s' = schemas ∧
    (opening client).step? db s = some (.query (ledgerQuery client) [] (.ok rows), next, s') ∧
    (ShowsLedger client schemas → next = .done (.ok client)) ∧
    (¬ ShowsLedger client schemas → next = creating client) := by
  subst hschemas
  obtain ⟨rows, names, s', hquery, hdecode, hnames, hview⟩ :=
    shares.lists (lookupSchema? client client.settings.ledgerTable) s
  have hlisted : isListed client.settings.ledgerTable names = true ↔
      ShowsLedger client (view s) := isListed_iff hnames
  change db.query (ledgerQuery client) [] s = _ at hquery
  rw [opening, opened_eq, Action.step?_queryMap_bind hquery hdecode]
  refine ⟨rows, s', _, hview, rfl, fun hshown => ?_, fun hmissing => ?_⟩
  · rw [if_pos (hlisted.mpr hshown)]
    rfl
  · rw [if_neg fun h => hmissing (hlisted.mp h)]
    rfl

theorem step?_opening_of_shown (hshown : ShowsLedger client schemas) :
    ∃ rows s', view s' = schemas ∧ (opening client).step? db s =
      some (.query (ledgerQuery client) [] (.ok rows), .done (.ok client), s') := by
  obtain ⟨rows, s', next, hview, hstep, hnext, -⟩ := shares.exists_step?_opening hschemas
  exact ⟨rows, s', hview, hnext hshown ▸ hstep⟩

theorem step?_opening_of_missing (hmissing : ¬ ShowsLedger client schemas) :
    ∃ rows s', view s' = schemas ∧ (opening client).step? db s =
      some (.query (ledgerQuery client) [] (.ok rows), creating client, s') := by
  obtain ⟨rows, s', next, hview, hstep, -, hnext⟩ := shares.exists_step?_opening hschemas
  exact ⟨rows, s', hview, hnext hmissing ▸ hstep⟩

/-- The second call creates the ledger where it is missing. -/
theorem step?_creating_of_missing (hdatabase : client.settings.database? = none)
    (hmissing : ¬ ShowsLedger client schemas) :
    ∃ count s', view s' = withLedger client schemas ∧ (creating client).step? db s =
      some (.execute (ledgerStatement client) [] (.ok count), .done (.ok client), s') := by
  subst hschemas
  rw [ShowsLedger, ledgerLookup_eq hdatabase] at hmissing
  have hcreates := shares.creates s
  generalize hexecute : db.execute (ledgerStatement client) [] s = executed at hcreates
  obtain ⟨answer, s'⟩ := executed
  cases answer with
  | ok count => exact ⟨count, s', hcreates.2, Action.step?_execute_bind hexecute⟩
  | error f => exact absurd hcreates.1 hmissing

/-- The second call fails where the ledger has been created. -/
theorem step?_creating_of_mem
    (hmem : ledgerName client ∈ schemas.tables (ledgerPlace client schemas)) :
    ∃ f s', view s' = schemas ∧ (creating client).step? db s =
      some (.execute (ledgerStatement client) [] (.error f), .done (.error f), s') := by
  subst hschemas
  have hcreates := shares.creates s
  generalize hexecute : db.execute (ledgerStatement client) [] s = executed at hcreates
  obtain ⟨answer, s'⟩ := executed
  cases answer with
  | ok count => exact absurd hmem hcreates.1
  | error f => exact ⟨f, s', hcreates.2, Action.step?_execute_bind hexecute⟩

end SharesLedger

end

namespace Meeting

variable {σ α : Type}

/-- Where the two sides are, what the database has, and which calls there were. -/
structure At (m : Meeting σ α) (view : σ → Schemas) (side : Side) (own others : Dialogue α)
    (schemas : Schemas) (calls : List (Side × Exchange)) : Prop where
  own : m.dialogue side = own
  others : m.dialogue side.other = others
  schemas : view m.state = schemas
  calls : m.calls = calls

namespace At

variable {m : Meeting σ α} {view : σ → Schemas} {side : Side} {own others next : Dialogue α}
  {schemas schemas' : Schemas} {calls : List (Side × Exchange)} {db : Database σ}
  {exchange : Exchange} {s : σ}

theorem turn_own (h : m.At view side own others schemas calls)
    (hstep : own.step? db m.state = some (exchange, next, s)) (hview : view s = schemas') :
    (m.turn db side).At view side next others schemas' (calls ++ [(side, exchange)]) := by
  rw [← h.own] at hstep
  refine ⟨dialogue_turn_self hstep, ?_, ?_, ?_⟩
  · rw [dialogue_turn_of_ne m (Side.other_ne side), h.others]
  · rw [turn_of_step? hstep]
    exact hview
  · rw [turn_of_step? hstep, h.calls]

theorem swap (h : m.At view side own others schemas calls) :
    m.At view side.other others own schemas calls :=
  ⟨h.others, by rw [Side.other_other, h.own], h.schemas, h.calls⟩

theorem turn_other (h : m.At view side own others schemas calls)
    (hstep : others.step? db m.state = some (exchange, next, s)) (hview : view s = schemas') :
    (m.turn db side.other).At view side own next schemas' (calls ++ [(side.other, exchange)]) := by
  have hturn := (h.swap.turn_own hstep hview).swap
  rwa [Side.other_other] at hturn

end At

end Meeting

section

variable {σ δ : Type} [Catalog δ]

/-- The call of a side that lists the tables. -/
def looked (client : Client δ) (side : Side) (rows : List Row) : Side × Exchange :=
  (side, .query (ledgerQuery client) [] (.ok rows))

/-- The call of a side that creates the ledger or fails to. -/
def tried (client : Client δ) (side : Side) (answer : Except Failure UInt64) : Side × Exchange :=
  (side, .execute (ledgerStatement client) [] answer)

/-- Where two openings can be that began when the database had the schemas `before`. -/
inductive Situation (client : Client δ) (view : σ → Schemas) (before : Schemas)
    (m : Meeting σ (Except Failure (Client δ))) : Prop
  | started (h : ∀ a, m.At view a (opening client) (opening client) before [])
  /-- The ledger was there from the beginning. -/
  | found (a : Side) (rows : List Row) (hshown : ShowsLedger client before)
      (h : m.At view a (.done (.ok client)) (opening client) before [looked client a rows])
  | foundBoth (a : Side) (rows rows' : List Row) (hshown : ShowsLedger client before)
      (h : m.At view a (.done (.ok client)) (.done (.ok client)) before
        [looked client a rows, looked client a.other rows'])
  | missed (a : Side) (rows : List Row) (hmissing : ¬ ShowsLedger client before)
      (h : m.At view a (creating client) (opening client) before [looked client a rows])
  | created (a : Side) (rows : List Row) (count : UInt64) (hmissing : ¬ ShowsLedger client before)
      (h : m.At view a (.done (.ok client)) (opening client) (withLedger client before)
        [looked client a rows, tried client a (.ok count)])
  /-- The other side has looked when the ledger had been created. -/
  | inTurn (a : Side) (rows : List Row) (count : UInt64) (rows' : List Row)
      (hmissing : ¬ ShowsLedger client before)
      (h : m.At view a (.done (.ok client)) (.done (.ok client)) (withLedger client before)
        [looked client a rows, tried client a (.ok count), looked client a.other rows'])
  | missedBoth (a : Side) (rows rows' : List Row) (hmissing : ¬ ShowsLedger client before)
      (h : m.At view a (creating client) (creating client) before
        [looked client a rows, looked client a.other rows'])
  /-- One side has created the ledger that the other has not found. -/
  | ahead (a b : Side) (rows rows' : List Row) (count : UInt64)
      (hmissing : ¬ ShowsLedger client before)
      (h : m.At view a (.done (.ok client)) (creating client) (withLedger client before)
        [looked client b rows, looked client b.other rows', tried client a (.ok count)])
  | refused (a b : Side) (rows rows' : List Row) (count : UInt64) (f : Failure)
      (hmissing : ¬ ShowsLedger client before)
      (h : m.At view a (.done (.ok client)) (.done (.error f)) (withLedger client before)
        [looked client b rows, looked client b.other rows', tried client a (.ok count),
          tried client a.other (.error f)])

variable {client : Client δ} {db : Database σ} {view : σ → Schemas}

/-- The next call of either side leads on to another situation. -/
theorem Situation.turn (shares : SharesLedger client db view)
    (hdatabase : client.settings.database? = none) {before : Schemas}
    {m : Meeting σ (Except Failure (Client δ))} (h : Situation client view before m) (side : Side) :
    Situation client view before (m.turn db side) := by
  -- a side that is done lets its turn pass, whatever the situation
  have hstay : ∀ result, m.dialogue side = .done result →
      Situation client view before (m.turn db side) := by
    intro result hdone
    rw [Meeting.turn_of_done hdone]
    exact h
  cases h with
  | started h =>
    by_cases hshown : ShowsLedger client before
    · obtain ⟨rows, s', hview, hstep⟩ := shares.step?_opening_of_shown (h side).schemas hshown
      exact .found side rows hshown ((h side).turn_own hstep hview)
    · obtain ⟨rows, s', hview, hstep⟩ := shares.step?_opening_of_missing (h side).schemas hshown
      exact .missed side rows hshown ((h side).turn_own hstep hview)
  | found a rows hshown h =>
    rcases Side.eq_or_eq_other a side with rfl | rfl
    · exact hstay _ h.own
    · obtain ⟨rows', s', hview, hstep⟩ := shares.step?_opening_of_shown h.schemas hshown
      exact .foundBoth a rows rows' hshown (h.turn_other hstep hview)
  | missed a rows hmissing h =>
    rcases Side.eq_or_eq_other a side with rfl | rfl
    · obtain ⟨count, s', hview, hstep⟩ :=
        shares.step?_creating_of_missing h.schemas hdatabase hmissing
      exact .created side rows count hmissing (h.turn_own hstep hview)
    · obtain ⟨rows', s', hview, hstep⟩ := shares.step?_opening_of_missing h.schemas hmissing
      exact .missedBoth a rows rows' hmissing (h.turn_other hstep hview)
  | created a rows count hmissing h =>
    rcases Side.eq_or_eq_other a side with rfl | rfl
    · exact hstay _ h.own
    · have hshown := showsLedger_withLedger hdatabase before
      obtain ⟨rows', s', hview, hstep⟩ := shares.step?_opening_of_shown h.schemas hshown
      exact .inTurn a rows count rows' hmissing (h.turn_other hstep hview)
  | missedBoth a rows rows' hmissing h =>
    obtain ⟨count, s', hview, hstep⟩ :=
      shares.step?_creating_of_missing h.schemas hdatabase hmissing
    rcases Side.eq_or_eq_other a side with rfl | rfl
    · exact .ahead side side rows rows' count hmissing (h.turn_own hstep hview)
    · exact .ahead a.other a rows rows' count hmissing (h.swap.turn_own hstep hview)
  | ahead a b rows rows' count hmissing h =>
    rcases Side.eq_or_eq_other a side with rfl | rfl
    · exact hstay _ h.own
    · obtain ⟨f, s', hview, hstep⟩ :=
        shares.step?_creating_of_mem h.schemas (mem_withLedger before)
      exact .refused a b rows rows' count f hmissing (h.turn_other hstep hview)
  | foundBoth a rows rows' hshown h =>
    rcases Side.eq_or_eq_other a side with rfl | rfl
    · exact hstay _ h.own
    · exact hstay _ h.others
  | inTurn a rows count rows' hmissing h =>
    rcases Side.eq_or_eq_other a side with rfl | rfl
    · exact hstay _ h.own
    · exact hstay _ h.others
  | refused a b rows rows' count f hmissing h =>
    rcases Side.eq_or_eq_other a side with rfl | rfl
    · exact hstay _ h.own
    · exact hstay _ h.others

/-- Every schedule leads to a situation. -/
theorem Situation.run (shares : SharesLedger client db view)
    (hdatabase : client.settings.database? = none) {before : Schemas} (schedule : List Side)
    {m : Meeting σ (Except Failure (Client δ))} (h : Situation client view before m) :
    Situation client view before (m.run db schedule) := by
  induction schedule generalizing m with
  | nil => exact h
  | cons side schedule ih => exact ih (h.turn shares hdatabase side)

end

section

variable {σ δ : Type} [Catalog δ]

/-- Both clients about to be opened. -/
def openings (client : Client δ) (s : σ) : Meeting σ (Except Failure (Client δ)) :=
  ⟨fun _ => opening client, s, []⟩

/-- A statement that succeeds. -/
def Exchange.succeeds (sql : String) : Exchange → Bool
  | execute text _ (.ok _) => text = sql
  | _ => false

/-- How often the ledger is created. -/
def creations (client : Client δ) (calls : List (Side × Exchange)) : Nat :=
  calls.countP fun call => call.2.succeeds (ledgerStatement client)

/-- How often a side makes a call behind one of the other. -/
def turnovers : List Side → Nat
  | a :: b :: rest => (if a = b then 0 else 1) + turnovers (b :: rest)
  | _ => 0

/-- All calls of one side come before those of the other. -/
def InTurn (calls : List (Side × Exchange)) : Prop := turnovers (calls.map (·.1)) ≤ 1

variable {client : Client δ} {view : σ → Schemas} {before : Schemas}
  {m : Meeting σ (Except Failure (Client δ))}

@[simp] theorem succeeds_looked (side : Side) (rows : List Row) :
    (looked client side rows).2.succeeds (ledgerStatement client) = false := rfl

@[simp] theorem succeeds_tried_ok (side : Side) (count : UInt64) :
    (tried client side (.ok count)).2.succeeds (ledgerStatement client) = true := by
  simp [tried, Exchange.succeeds]

@[simp] theorem succeeds_tried_error (side : Side) (f : Failure) :
    (tried client side (.error f)).2.succeeds (ledgerStatement client) = false := rfl

theorem Situation.creations_le_one (h : Situation client view before m) :
    creations client m.calls ≤ 1 := by
  cases h with
  | started h => simp [creations, (h .first).calls]
  | found a rows hshown h | missed a rows hmissing h => simp [creations, h.calls]
  | foundBoth a rows rows' hshown h | missedBoth a rows rows' hmissing h =>
    simp [creations, h.calls]
  | created a rows count hmissing h => simp [creations, h.calls]
  | inTurn a rows count rows' hmissing h => simp [creations, h.calls]
  | ahead a b rows rows' count hmissing h => simp [creations, h.calls]
  | refused a b rows rows' count f hmissing h => simp [creations, h.calls]

theorem result?_of_opening {side : Side} (h : m.dialogue side = opening client) :
    m.result? side = none := by
  rw [Meeting.result?, h]
  rfl

theorem result?_of_creating {side : Side} (h : m.dialogue side = creating client) :
    m.result? side = none := by
  rw [Meeting.result?, h]
  rfl

/-- What two openings have come to that began when the database had the schemas `before`. -/
structure BothOver (client : Client δ) (view : σ → Schemas) (before : Schemas)
    (m : Meeting σ (Except Failure (Client δ))) : Prop where
  shown : ShowsLedger client (view m.state)
  creations_eq_zero : creations client m.calls = 0 ↔ ShowsLedger client before
  someone : ∃ side, m.result? side = some (.ok client)
  everyone : (∀ side, m.result? side = some (.ok client)) ↔ InTurn m.calls
  /-- A client that is not opened fails with what the database answers it at last. -/
  refused (side : Side) : m.result? side = some (.ok client) ∨
    ∃ f, m.result? side = some (.error f) ∧ m.calls.getLast? = some (tried client side (.error f))

theorem bothOver_of_opened {a : Side} {schemas : Schemas} {calls : List (Side × Exchange)}
    (h : m.At view a (.done (.ok client)) (.done (.ok client)) schemas calls)
    (hshown : ShowsLedger client schemas)
    (hcreations : creations client calls = 0 ↔ ShowsLedger client before) (hturns : InTurn calls) :
    BothOver client view before m := by
  have hopened : ∀ side, m.result? side = some (.ok client) := by
    intro side
    rcases Side.eq_or_eq_other a side with rfl | rfl
    · exact Meeting.result?_of_done h.own
    · exact Meeting.result?_of_done h.others
  exact {
    shown := h.schemas ▸ hshown
    creations_eq_zero := h.calls ▸ hcreations
    someone := ⟨a, hopened a⟩
    everyone := ⟨fun _ => h.calls ▸ hturns, fun _ => hopened⟩
    refused := fun side => Or.inl (hopened side) }

theorem Situation.bothOver (hdatabase : client.settings.database? = none)
    (h : Situation client view before m)
    (hover : ∀ side, ∃ result, m.result? side = some result) :
    BothOver client view before m := by
  have hover' : ∀ side, m.result? side ≠ none := by
    intro side hnone
    obtain ⟨result, hresult⟩ := hover side
    rw [hnone] at hresult
    cases hresult
  cases h with
  | started h => exact absurd (result?_of_opening (h .first).own) (hover' .first)
  | found a rows hshown h => exact absurd (result?_of_opening h.others) (hover' a.other)
  | missed a rows hmissing h => exact absurd (result?_of_opening h.others) (hover' a.other)
  | created a rows count hmissing h =>
    exact absurd (result?_of_opening h.others) (hover' a.other)
  | missedBoth a rows rows' hmissing h => exact absurd (result?_of_creating h.own) (hover' a)
  | ahead a b rows rows' count hmissing h =>
    exact absurd (result?_of_creating h.others) (hover' a.other)
  | foundBoth a rows rows' hshown h =>
    refine bothOver_of_opened h hshown (by simp [creations, hshown]) ?_
    change turnovers [a, a.other] ≤ 1
    cases a <;> decide
  | inTurn a rows count rows' hmissing h =>
    refine bothOver_of_opened h (showsLedger_withLedger hdatabase before)
      (by simp [creations, hmissing]) ?_
    change turnovers [a, a, a.other] ≤ 1
    cases a <;> decide
  | refused a b rows rows' count f hmissing h =>
    have hown : m.result? a = some (.ok client) := Meeting.result?_of_done h.own
    have hfails : m.result? a.other = some (.error f) := Meeting.result?_of_done h.others
    have hturns : ¬ InTurn m.calls := by
      rw [InTurn, h.calls]
      change ¬ turnovers [b, b.other, a, a.other] ≤ 1
      cases a <;> cases b <;> decide
    exact {
      shown := h.schemas ▸ showsLedger_withLedger hdatabase before
      creations_eq_zero := by simp [creations, h.calls, hmissing]
      someone := ⟨a, hown⟩
      everyone := ⟨fun hopened => by simp [hopened] at hfails, fun h => absurd h hturns⟩
      refused := fun side => by
        rcases Side.eq_or_eq_other a side with rfl | rfl
        · exact Or.inl hown
        · exact Or.inr ⟨f, hfails, by simp [h.calls]⟩ }

/-- Whatever the order of the calls, two clients that open one database create the ledger at most
once. Two turns are enough for each. When both are done the ledger is there, created if it was
missing; at least one of the clients is opened, and both are exactly when the calls of one all came
before those of the other. A client that is not opened has been refused the ledger, which the other
had created. -/
theorem openings_share_ledger {db : Database σ} (shares : SharesLedger client db view)
    (hdatabase : client.settings.database? = none) (s : σ) (schedule : List Side) :
    let m := (openings client s).run db schedule
    creations client m.calls ≤ 1 ∧
      (∀ side, 2 ≤ schedule.count side → ∃ result, m.result? side = some result) ∧
      ((∀ side, ∃ result, m.result? side = some result) → BothOver client view (view s) m) := by
  intro m
  have hsituation : Situation client view (view s) m :=
    Situation.run shares hdatabase schedule (.started fun a => ⟨rfl, rfl, rfl, rfl⟩)
  refine ⟨hsituation.creations_le_one, fun side hturns => ?_, hsituation.bothOver hdatabase⟩
  exact Meeting.exists_result (endsWithin_opening client) hturns

end

section

theorem SchemaServer.sharesLedger {δ : Type} [Catalog δ] [Spelled δ] [ListsTables δ]
    (client : Client δ) (hdots : client.settings.ledgerTable.toList.count '.' ≤ 1) :
    SharesLedger client (database client.dialect) view where
  lists := (hosts client.dialect).lists
  creates server := by
    have hexecute : (database client.dialect).execute (ledgerStatement client) [] server =
        server.create (ledgerPlace client server.view) (ledgerName client) := by
      simp only [database, ledgerStatement, read_createLedger, Option.bind_some,
        createdTable?_ledgerTokens hdots]
      rfl
    rw [hexecute]
    by_cases hmem : (ledgerPlace client server.view, ledgerName client) ∈ server.tables
    · rw [create, if_pos hmem]
      exact ⟨⟨ledgerName client, hmem, Text.sameName_refl _⟩, rfl⟩
    · have hview := view_create server hmem
      rw [create, if_neg hmem] at hview ⊢
      exact ⟨hmem, hview⟩

/-- Two openings on a server without tables. -/
def openedTogether (schedule : List Side) : Meeting SchemaServer (Except Failure (Client MySql)) :=
  (openings usualClient emptyServer).run (SchemaServer.database usualClient.dialect) schedule

theorem openings_one_after_the_other :
    SharesLedger usualClient (SchemaServer.database usualClient.dialect) SchemaServer.view ∧
      usualClient.settings.database? = none ∧
      ∀ schedule ∈ [[Side.first, .first, .second, .second], [.first, .second, .second, .first]],
        creations usualClient (openedTogether schedule).calls ≤ 1 ∧
          BothOver usualClient SchemaServer.view emptyServer.view (openedTogether schedule) := by
  have hshares := SchemaServer.sharesLedger usualClient (by decide)
  refine ⟨hshares, rfl, fun schedule hschedule => ?_⟩
  obtain ⟨honce, hdone, hover⟩ := openings_share_ledger hshares rfl emptyServer schedule
  have hturns : ∀ side, 2 ≤ schedule.count side := by
    intro side
    simp only [List.mem_cons, List.not_mem_nil, or_false] at hschedule
    rcases hschedule with rfl | rfl <;> cases side <;> decide
  exact ⟨honce, hover fun side => hdone side (hturns side)⟩

/-- When both look before either has created the ledger, the second to create it is not opened. -/
theorem second_opening_refused :
    SharesLedger usualClient (SchemaServer.database usualClient.dialect) SchemaServer.view ∧
      usualClient.settings.database? = none ∧ ¬ ShowsLedger usualClient emptyServer.view ∧
      (openedTogether [.first, .second, .first, .second]).result? .first =
        some (.ok usualClient) ∧
      (openedTogether [.first, .second, .first, .second]).result? .second =
        some (.error (.reported .execution "The table exists already")) := by
  refine ⟨SchemaServer.sharesLedger usualClient (by decide), rfl, ?_, by decide +kernel,
    by decide +kernel⟩
  rintro ⟨name, hmem, -⟩
  cases hmem

end

end SchemaChange
