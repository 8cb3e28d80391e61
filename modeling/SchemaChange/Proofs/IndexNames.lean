import SchemaChange.Proofs.ClientRun
import SchemaChange.Proofs.IndexAddress
import SchemaChange.Proofs.RecasedRows

/-!
The names that are made up for indexes. An index without a name is named after its table and its
columns, with underscores in between, and an underscore in the name of a column looks the same as
one between two columns. So two indexes of a table get the same name exactly when their columns are
the same once they are taken apart at all underscores, and a database that lets no two indexes of a
schema have one name accepts the statements of a table up to the first name that comes twice.
-/
namespace SchemaChange

namespace Text

section

variable (mark : Char)

theorem splitOn_injective : Function.Injective fun s : List Char => s.splitOn mark := by
  intro s t h
  have hjoined : [mark].intercalate (s.splitOn mark) = [mark].intercalate (t.splitOn mark) :=
    congrArg _ h
  rwa [List.intercalate_splitOn, List.intercalate_splitOn] at hjoined

/-- What is joined with marks is taken apart at those and at all others. -/
theorem splitOn_intercalate_eq {parts : List (List Char)} (h : parts ≠ []) :
    ([mark].intercalate parts).splitOn mark = parts.flatMap (·.splitOn mark) := by
  induction parts with
  | nil => exact absurd rfl h
  | cons part parts ih =>
    cases parts with
    | nil => simp
    | cons other parts =>
      have hcons : [mark].intercalate (part :: other :: parts) =
          part ++ mark :: [mark].intercalate (other :: parts) := by
        rw [List.intercalate_cons_cons]
        simp
      rw [hcons, List.splitOn_append_cons_self, ih (List.cons_ne_nil _ _)]
      rfl

variable {mark} {f : Char → Char} (hf : ∀ c, f c = mark ↔ c = mark)
include hf

theorem splitOn_map (s : List Char) :
    (s.map f).splitOn mark = (s.splitOn mark).map (List.map f) := by
  induction s with
  | nil => rfl
  | cons c s ih =>
    rw [List.map_cons, List.splitOn_cons_eq_if_modifyHead, List.splitOn_cons_eq_if_modifyHead, ih]
    by_cases hc : c = mark
    · subst hc
      have hfc : f c = c := (hf c).mpr rfl
      simp [hfc]
    · have hfc : f c ≠ mark := fun heq => hc ((hf c).mp heq)
      obtain ⟨first, later, hsplit⟩ := List.exists_cons_of_ne_nil (List.splitOn_ne_nil mark s)
      simp [hc, hfc, hsplit]

end

/-- What stands between the underscores of some texts. -/
def pieces (texts : List String) : List String :=
  texts.flatMap fun text => (text.toList.splitOn '_').map String.ofList

theorem pieces_of_no_underscore {texts : List String} (h : ∀ text ∈ texts, '_' ∉ text.toList) :
    pieces texts = texts := by
  unfold pieces
  rw [List.flatMap_congr fun text htext => ?_, List.flatMap_singleton']
  rw [List.splitOn_eq_singleton (h text htext), List.map_singleton, String.ofList_toList]

/-- Texts that are joined with underscores make up the same text when they have the same pieces. -/
theorem map_intercalate_eq_iff {f : Char → Char} (hf : ∀ c, f c = '_' ↔ c = '_')
    {a b : List String} (ha : a ≠ []) (hb : b ≠ []) :
    ("_".intercalate a).toList.map f = ("_".intercalate b).toList.map f ↔
      (pieces a).map (fun piece => piece.toList.map f) =
        (pieces b).map (fun piece => piece.toList.map f) := by
  have hsplit : ∀ {texts : List String}, texts ≠ [] →
      (("_".intercalate texts).toList.map f).splitOn '_' =
        (pieces texts).map fun piece => piece.toList.map f := by
    intro texts htexts
    have hchars : texts.map String.toList ≠ [] := by simpa using htexts
    have hmark : "_".toList = ['_'] := rfl
    rw [splitOn_map hf, String.toList_intercalate, hmark, splitOn_intercalate_eq '_' hchars]
    simp [pieces, List.flatMap_map, List.map_flatMap, Function.comp_def]
  rw [← (splitOn_injective '_').eq_iff, hsplit ha, hsplit hb]

theorem toLower_eq_underscore_iff (c : Char) : c.toLower = '_' ↔ c = '_' :=
  forall_toLower (P := fun c d => d = '_' ↔ c = '_') (fun _ => Iff.rfl) (by decide +kernel) c

/-- The texts have the same pieces but for the case of ASCII letters. -/
def RecasedPieces (a b : List String) : Prop := List.Forall₂ Recased (pieces a) (pieces b)

instance (a b : List String) : Decidable (RecasedPieces a b) :=
  inferInstanceAs (Decidable (List.Forall₂ Recased (pieces a) (pieces b)))

theorem recasedPieces_iff {a b : List String} :
    RecasedPieces a b ↔
      (pieces a).map (fun piece => piece.toList.map Char.toLower) =
        (pieces b).map fun piece => piece.toList.map Char.toLower := by
  rw [← List.forall₂_eq_eq_eq, List.forall₂_map_left_iff, List.forall₂_map_right_iff]
  have hrecased : Recased = fun a b : String =>
      a.toList.map Char.toLower = b.toList.map Char.toLower := by
    funext a b
    exact propext beq_iff_eq
  rw [RecasedPieces, hrecased]

end Text

namespace Index

/-- An index without a name of its own has the last component of the name of its table in front. -/
theorem nameFor_unnamed {index : Index} (h : index.name? = none) (table : String) :
    index.nameFor table =
      Text.QualifiedName.table table ++ "_" ++ "_".intercalate index.columns ++ "_index" := by
  rw [nameFor_eq, statedName, h]
  rfl

variable {a b : Index} (ha : a.name? = none) (hb : b.name? = none) (hcolumns : a.columns ≠ [])
  (hcolumns' : b.columns ≠ []) (table : String)
include ha hb hcolumns hcolumns'

theorem map_nameFor_eq_iff {f : Char → Char} (hf : ∀ c, f c = '_' ↔ c = '_') :
    (a.nameFor table).toList.map f = (b.nameFor table).toList.map f ↔
      (Text.pieces a.columns).map (fun piece => piece.toList.map f) =
        (Text.pieces b.columns).map (fun piece => piece.toList.map f) := by
  rw [nameFor_unnamed ha, nameFor_unnamed hb, ← Text.map_intercalate_eq_iff hf hcolumns hcolumns']
  simp only [String.toList_append, List.map_append, List.append_cancel_right_eq,
    List.append_cancel_left_eq]

theorem nameFor_eq_iff :
    a.nameFor table = b.nameFor table ↔ Text.pieces a.columns = Text.pieces b.columns := by
  have hpieces := map_nameFor_eq_iff ha hb hcolumns hcolumns' table (f := id) fun _ => Iff.rfl
  have hinjective : Function.Injective fun piece : String => piece.toList :=
    fun _ _ h => String.toList_injective h
  simp only [List.map_id] at hpieces
  rw [← String.toList_inj, hpieces, (List.map_injective_iff.mpr hinjective).eq_iff]

theorem recased_nameFor_iff :
    Recased (a.nameFor table) (b.nameFor table) ↔ Text.RecasedPieces a.columns b.columns := by
  rw [Text.recasedPieces_iff, ← map_nameFor_eq_iff ha hb hcolumns hcolumns' table
    Text.toLower_eq_underscore_iff]
  exact beq_iff_eq

end Index

/-- The names that the plain indexes of a table get. -/
def Table.indexNames (table : Table) : List String :=
  table.plainIndexes.map (·.nameFor table.name)

/-- The columns of the plain indexes of a table. -/
def Table.indexColumns (table : Table) : List (List String) := table.plainIndexes.map (·.columns)

section

variable {table : Table} (hunnamed : ∀ index ∈ table.plainIndexes, index.name? = none)
  (hcolumns : ∀ index ∈ table.plainIndexes, index.columns ≠ [])
include hunnamed hcolumns

theorem nodup_indexNames_iff :
    table.indexNames.Nodup ↔ (table.indexColumns.map Text.pieces).Nodup := by
  unfold Table.indexNames Table.indexColumns List.Nodup
  rw [List.map_map, List.pairwise_map, List.pairwise_map]
  refine List.Pairwise.iff_of_mem fun ha hb => not_congr ?_
  exact Index.nameFor_eq_iff (hunnamed _ ha) (hunnamed _ hb) (hcolumns _ ha) (hcolumns _ hb) _

theorem pairwise_indexNames_iff :
    table.indexNames.Pairwise (¬ Recased · ·) ↔
      table.indexColumns.Pairwise (¬ Text.RecasedPieces · ·) := by
  unfold Table.indexNames Table.indexColumns
  rw [List.pairwise_map, List.pairwise_map]
  refine List.Pairwise.iff_of_mem fun ha hb => not_congr ?_
  exact Index.recased_nameFor_iff (hunnamed _ ha) (hunnamed _ hb) (hcolumns _ ha) (hcolumns _ hb) _

end

/-- A table that is accepted has columns in each of its indexes. -/
theorem columns_ne_nil_of_createTable {δ : Type} [Dialect δ] {d : δ} {table : Table}
    {statements : List String} (h : Statement.createTable d table = .ok statements) {index : Index}
    (hindex : index ∈ table.plainIndexes) : index.columns ≠ [] := by
  obtain ⟨_, hcheck, -⟩ := bind_eq_ok_iff.mp h
  obtain ⟨-, -, hindexes, -⟩ := Table.check_eq_ok_iff.mp hcheck
  exact (hindexes index (List.mem_of_mem_filter hindex)).1

namespace Sqlite

/-- The index that a statement creates, and the table that it is on. -/
def createdBy? (sql : String) : Option (IndexAddress × String) :=
  (Token.read quoteMark sql).bind createdIndex?

/-- The statements behind the first create the plain indexes of the table by their names. -/
theorem createTable_creates_indexes (d : Sqlite) {table : Table} {statements : List String}
    (h : Statement.createTable d table = .ok statements) :
    ∃ create made, statements = create :: made ∧
      List.Forall₂ (fun sql name => createdBy? sql =
        some (indexAddress table.name name, Text.QualifiedName.table table.name))
        made table.indexNames := by
  obtain ⟨create, made, rfl, hmade⟩ := createTable_adds_indexes d rfl h
  refine ⟨create, made, rfl, ?_⟩
  rw [← List.forall₂_eq_eq_eq, List.forall₂_map_left_iff, List.forall₂_map_right_iff] at hmade
  rw [Table.indexNames, List.forall₂_map_right_iff]
  refine hmade.imp fun sql index hadd => ?_
  obtain ⟨_, -, hnamed⟩ := bind_eq_ok_iff.mp hadd.symm
  cases hnamed
  rw [createdBy?, Statement.namedIndex, (written_index d table.name _ index).read_eq]
  exact createdIndex?_indexTokens table.name _ index

/-- In one schema, the database lets no two indexes have one name, in whatever case its ASCII
letters are, and this is its only reason not to create an index. -/
structure KeepsIndexNames {σ : Type} (db : Database σ) (schema? : Option String)
    (names : σ → List String) : Prop where
  accepts {sql index own : String} {count : UInt64} {s s' : σ} :
    createdBy? sql = some (⟨schema?, index⟩, own) → db.execute sql [] s = (.ok count, s') →
    (∀ name ∈ names s, ¬ Recased name index) ∧ names s' = index :: names s
  refuses {sql index own : String} {f : Failure} {s s' : σ} :
    createdBy? sql = some (⟨schema?, index⟩, own) → db.execute sql [] s = (.error f, s') →
    ∃ name ∈ names s, Recased name index

/-- Indexes are created in a row when their names differ from each other and from all before. -/
theorem KeepsIndexNames.result_forM_change {σ : Type} {db : Database σ} {schema? : Option String}
    {names : σ → List String} (hdb : KeepsIndexNames db schema? names) {own : String}
    {made created : List String}
    (h : List.Forall₂ (fun sql name => createdBy? sql = some (⟨schema?, name⟩, own)) made created)
    (s : σ) :
    (Action.run db (made.forM Client.change) s).result = .ok () ↔
      created.Pairwise (¬ Recased · ·) ∧
        ∀ index ∈ created, ∀ name ∈ names s, ¬ Recased name index := by
  induction h generalizing s with
  | nil => simp [Action.run_pure]
  | @cons sql index made created hcreated hrest ih =>
    change (Action.run db (Client.change sql >>= fun _ => made.forM Client.change) s).result = _ ↔ _
    rw [Action.run_bind, Client.run_change]
    cases hexecute : db.execute sql [] s with
    | mk answer s' =>
      cases answer with
      | error f =>
        obtain ⟨name, hname, hrecased⟩ := hdb.refuses hcreated hexecute
        constructor
        · intro hresult
          cases hresult
        · rintro ⟨-, hfree⟩
          exact absurd hrecased (hfree index (List.mem_cons_self ..) name hname)
      | ok count =>
        obtain ⟨hfree, hnames⟩ := hdb.accepts hcreated hexecute
        change (Action.run db (made.forM Client.change) s').result = _ ↔ _
        rw [ih s', hnames, List.pairwise_cons]
        simp only [List.forall_mem_cons, forall_and]
        tauto

end Sqlite

/-- When no plain index of a table has a name of its own, the names that are made up for them are
pairwise different if and only if their columns are once they are taken apart at every underscore;
where no column has one, it is enough that no two indexes have the same columns. A database that
takes the first statement, and has none of these names yet, then takes the others if and only if the
columns, taken apart, differ in more than the case of ASCII letters. -/
theorem unnamed_indexes_differ_iff (client : Client Sqlite) {table : Table}
    {statements : List String} (hunnamed : ∀ index ∈ table.plainIndexes, index.name? = none)
    (h : Statement.createTable client.dialect table = .ok statements) :
    ∃ create made, statements = create :: made ∧
      made.map Sqlite.createdBy? = (table.indexNames.map fun name =>
        some (Sqlite.indexAddress table.name name, Text.QualifiedName.table table.name)) ∧
      (table.indexNames.Nodup ↔ (table.indexColumns.map Text.pieces).Nodup) ∧
      ((∀ columns ∈ table.indexColumns, ∀ column ∈ columns, '_' ∉ column.toList) →
        table.indexColumns.Nodup → table.indexNames.Nodup) ∧
      ∀ {σ : Type} (db : Database σ) (names : σ → List String),
        Sqlite.KeepsIndexNames db (Text.QualifiedName.schema? table.name) names →
        ∀ (s s' : σ) (count : UInt64), db.execute create [] s = (.ok count, s') →
          (∀ index ∈ table.indexNames, ∀ name ∈ names s', ¬ Recased name index) →
          ((Action.run db (client.createTable table) s).result = .ok () ↔
            table.indexColumns.Pairwise (¬ Text.RecasedPieces · ·)) := by
  have hcolumns : ∀ index ∈ table.plainIndexes, index.columns ≠ [] :=
    fun _ => columns_ne_nil_of_createTable h
  have hnodup := nodup_indexNames_iff hunnamed hcolumns
  obtain ⟨create, made, rfl, hmade⟩ := Sqlite.createTable_creates_indexes client.dialect h
  refine ⟨create, made, rfl, ?_, hnodup, fun hplain hdifferent => ?_, ?_⟩
  · rw [← List.forall₂_eq_eq_eq, List.forall₂_map_left_iff, List.forall₂_map_right_iff]
    exact hmade
  · have hpieces : table.indexColumns.map Text.pieces = table.indexColumns :=
      List.map_congr_left (fun columns hmem => Text.pieces_of_no_underscore (hplain columns hmem))
        |>.trans (List.map_id _)
    rw [hnodup, hpieces]
    exact hdifferent
  · intro σ db names hdb s s' count hcreate hfree
    have hrun : (Action.run db (client.createTable table) s).result =
        (Action.run db (made.forM Client.change) s').result := by
      rw [Client.createTable, Action.run_bind, Action.run_liftM, h, Outcome.andThen_ok]
      change (Action.run db
        (Client.change create >>= fun _ => made.forM Client.change) s).result = _
      rw [Action.run_bind, Client.run_change, hcreate]
      rfl
    rw [hrun, hdb.result_forM_change hmade s', pairwise_indexNames_iff hunnamed hcolumns]
    exact and_iff_left hfree

namespace IndexNameServer

/-- A database of one schema that knows the names of its indexes and nothing else. -/
def database : Database (List String) where
  query _ _ names := (.ok [], names)
  execute sql _ names :=
    match Sqlite.createdBy? sql with
    | some (address, _) =>
      if names.any fun name => Text.sameAsciiName name address.index then
        (.error (.reported .execution "The index exists already"), names)
      else (.ok 0, address.index :: names)
    | none => (.ok 0, names)

theorem execute_of_created {sql own : String} {address : Sqlite.IndexAddress}
    (h : Sqlite.createdBy? sql = some (address, own)) (names : List String) :
    database.execute sql [] names =
      if names.any fun name => Text.sameAsciiName name address.index then
        (.error (.reported .execution "The index exists already"), names)
      else (.ok 0, address.index :: names) := by
  simp only [database, h]

theorem keepsIndexNames (schema? : Option String) :
    Sqlite.KeepsIndexNames database schema? id where
  accepts {sql index own count names names'} hcreated hexecute := by
    rw [execute_of_created hcreated] at hexecute
    split at hexecute
    · cases hexecute
    · next hfree =>
      cases hexecute
      exact ⟨fun name hname hrecased => hfree (List.any_eq_true.mpr ⟨name, hname, hrecased⟩), rfl⟩
  refuses {sql index own f names names'} hcreated hexecute := by
    rw [execute_of_created hcreated] at hexecute
    split at hexecute
    · next htaken => exact List.any_eq_true.mp htaken
    · cases hexecute

end IndexNameServer

/-- A table with an index on each of its columns and one on both. -/
def personTable : Table where
  name := "main.person"
  columns := [{ name := "first", type := .string }, { name := "last_name", type := .string }]
  indexes := [{ columns := ["first"] }, { columns := ["last_name"] },
    { columns := ["first", "last_name"] }]

theorem person_indexes_differ :
    ∃ create made, Statement.createTable ({} : Sqlite) personTable = .ok (create :: made) ∧
      made.map Sqlite.createdBy? =
        [some (⟨some "main", "person_first_index"⟩, "person"),
          some (⟨some "main", "person_last_name_index"⟩, "person"),
          some (⟨some "main", "person_first_last_name_index"⟩, "person")] ∧
      personTable.indexNames.Nodup ∧
      (Action.run IndexNameServer.database (Client.createTable ⟨({} : Sqlite), {}⟩ personTable)
        []).result = .ok () := by
  obtain ⟨create, made, hstatements, hmade, hnodup, -, hruns⟩ :=
    @unnamed_indexes_differ_iff ⟨{}, {}⟩ personTable _ (by decide) rfl
  refine ⟨create, made, congrArg Except.ok hstatements, hmade.trans (by decide),
    hnodup.mpr (by decide +kernel), ?_⟩
  have hserver := IndexNameServer.keepsIndexNames (Text.QualifiedName.schema? personTable.name)
  cases hstatements
  exact (hruns _ _ hserver [] [] 0 (by decide +kernel) nofun).mpr (by decide +kernel)

/-- A table whose first index looks like an index on the other two columns. -/
def underscoredTable : Table where
  name := "t"
  columns := [{ name := "a", type := .integer }, { name := "b", type := .integer },
    { name := "a_b", type := .integer }]
  indexes := [{ columns := ["a_b"] }, { columns := ["a", "b"] }]

theorem underscored_indexes_share_name :
    (∀ index ∈ underscoredTable.plainIndexes, index.name? = none) ∧
      underscoredTable.indexColumns.Nodup ∧
      (∃ create first second,
        Statement.createTable ({} : Sqlite) underscoredTable = .ok [create, first, second] ∧
        Sqlite.createdBy? first = some (⟨none, "t_a_b_index"⟩, "t") ∧
        Sqlite.createdBy? second = some (⟨none, "t_a_b_index"⟩, "t")) ∧
      (Action.run IndexNameServer.database
        (Client.createTable ⟨({} : Sqlite), {}⟩ underscoredTable) []).result =
          .error (.reported .execution "The index exists already") := by
  refine ⟨by decide, by decide, ⟨_, _, _, rfl, ?_, ?_⟩, ?_⟩
  · decide +kernel
  · decide +kernel
  · decide +kernel

end SchemaChange
