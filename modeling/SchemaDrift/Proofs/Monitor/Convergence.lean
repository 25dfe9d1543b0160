import SchemaDrift.Proofs.Monitor.Cycling

namespace SchemaDrift

/-- What a cycle is given beside the sources: its identity, those of its executions, and its time. -/
structure Turn where
  cycleId : String
  executionId : Nat → String
  now : Moment

/-- Statements leave the record of batches as it is only when there are none. -/
theorem Catalog.log_applyAll_eq_iff {catalog : Catalog} {statements : List DdlStatement} :
    (catalog.applyAll statements).log = catalog.log ↔ statements = [] := by
  constructor
  · intro same
    have listed := Catalog.applyAll_log catalog statements
    rw [same, List.self_eq_append_right, List.map_eq_nil_iff] at listed
    exact listed
  · intro none
    rw [none]
    rfl

namespace Service

/-- The service after some cycles on the same sources. -/
def cycles (turns : Nat → Turn) (output : ScanOutput) (service : Service) : Nat → Service
  | 0 => service
  | n + 1 => ((cycles turns output service n).runCycle (turns n).cycleId (turns n).executionId
      (.found output) (turns n).now).1

/-- A service that only cycles: it is steady and at rest, its catalog can be changed and read in
time, the sources stay as they are, and the statements that they can ask for are parsed as what they
are. -/
structure LeftAlone (settings : Settings) (output : ScanOutput) (service : Service) : Prop where
  steady : service.Steady settings (.ofStatements output.statements)
  idle : service.monitor.running = none
  isOpen : service.catalog.Open
  schema : settings.database.schema = service.catalog.schema
  inTime : service.catalog.latency.nanos ≤ settings.limit.nanos
  distinct : (InferredSchema.ofStatements output.statements).Distinct
  parses : ∀ statement ∈ (InferredSchema.ofStatements output.statements).remedies settings.rules,
    statement.Parses

/-- Where cycles lead: tables and columns are created in the first of them, and nothing but indexes
later. A cycle from the third on executes nothing exactly when after the first the names of the
indexes that are still wanted are free, and no two of them are the same; then nothing that was wanted
once is wanted again. -/
structure Settles (settings : Settings) (output : ScanOutput) (turns : Nat → Turn)
    (service : Service) : Prop where
  indexesOnly : ∀ n, (service.cycles turns output (n + 1)).catalog.WantsIndexes settings.rules
    (.ofStatements output.statements)
  quiet_iff : ∀ n, (service.cycles turns output (n + 3)).catalog.log =
      (service.cycles turns output (n + 2)).catalog.log ↔
    (service.cycles turns output 1).catalog.NamesFree settings.rules
      (.ofStatements output.statements)
  once : (service.cycles turns output 1).catalog.NamesFree settings.rules
      (.ofStatements output.statements) →
    ∀ {first second statement}, first < second →
      (service.cycles turns output first).catalog.Wants settings.rules
        (.ofStatements output.statements) statement →
      ¬ (service.cycles turns output second).catalog.Wants settings.rules
        (.ofStatements output.statements) statement

namespace LeftAlone

variable {settings : Settings} {output : ScanOutput} {service : Service}

/-- A cycle executes what the catalog wants and leaves the service alone. -/
theorem runCycle (alone : service.LeftAlone settings output) (turn : Turn) :
    (service.runCycle turn.cycleId turn.executionId (.found output) turn.now).1.LeftAlone
        settings output ∧
      ∃ statements,
        service.catalog.Answers settings.rules (.ofStatements output.statements) statements ∧
        (service.runCycle turn.cycleId turn.executionId (.found output) turn.now).1.catalog =
          service.catalog.applyAll statements := by
  obtain ⟨⟨steady, idle⟩, statements, answers, changed⟩ := alone.steady.runCycle alone.idle
    alone.distinct alone.isOpen alone.schema alone.inTime alone.parses rfl turn.cycleId
    turn.executionId turn.now
  have kept := Catalog.applyAll_keeps service.catalog statements
  refine ⟨⟨steady, idle, ?_, ?_, ?_, alone.distinct, alone.parses⟩, statements, answers, changed⟩
  · rw [changed]
    exact (alone.isOpen.applyAll answers.additions).1
  · rw [changed, kept.1]
    exact alone.schema
  · rw [changed, kept.2]
    exact alone.inTime

/-- A service that is left alone stays so through all its cycles. -/
theorem cycles (alone : service.LeftAlone settings output) (turns : Nat → Turn) (n : Nat) :
    (service.cycles turns output n).LeftAlone settings output := by
  induction n with
  | zero => exact alone
  | succ n inductionHypothesis => exact (inductionHypothesis.runCycle (turns n)).1

theorem exists_rounds (alone : service.LeftAlone settings output) (turns : Nat → Turn) :
    ∃ executed, Rounds settings.rules (.ofStatements output.statements)
      (fun n => (service.cycles turns output n).catalog) executed := by
  choose executed answers changed using fun n => ((alone.cycles turns n).runCycle (turns n)).2
  exact ⟨executed, alone.isOpen, changed, answers⟩

/-- A cycle from the third on executes nothing exactly when after the first the names of the indexes
that are still wanted are free. -/
theorem log_eq_iff (alone : service.LeftAlone settings output) (turns : Nat → Turn) (n : Nat) :
    (service.cycles turns output (n + 3)).catalog.log =
        (service.cycles turns output (n + 2)).catalog.log ↔
      (service.cycles turns output 1).catalog.NamesFree settings.rules
        (.ofStatements output.statements) := by
  obtain ⟨executed, rounds⟩ := alone.exists_rounds turns
  have step := rounds.step (n + 2)
  have quiet := rounds.quiet_iff (InferredSchema.consistent_ofStatements output.statements) n
  rw [step, Catalog.log_applyAll_eq_iff, quiet]

end LeftAlone

end Service

namespace SharedName

/-- Settings by which one place is enough and fixes are automatic. -/
def settings : Settings :=
  { Settings.initial with
    minEvidence := 1
    monitor := { MonitorSettings.initial with autoApply := true } }

def lookUp (line : Nat) (table column : String) : SourceStatement where
  text := "SELECT * FROM " ++ table ++ " WHERE " ++ column ++ " = 1"
  location := ⟨"shop.py", line, none⟩
  usage := ⟨.select, some table, [table], [⟨table, column, .filter, some .equality, [.number "1"]⟩]⟩

/-- The sources look up orders by item and items of orders by number. -/
def output : ScanOutput := ⟨[lookUp 1 "orders" "item_id", lookUp 2 "orders_item" "id"], 1, 0, []⟩

/-- Two tables with every column that is used, whose indexes have one name. -/
def catalog : Catalog :=
  .ofTables "public" ⟨0⟩ [⟨"orders", [.ofDeclaration "item_id" "integer"], [], []⟩,
    ⟨"orders_item", [.ofDeclaration "id" "integer"], [], []⟩]

/-- A service that knows no issues yet. -/
def service : Service := ⟨.ofIssues settings [], .memory [] [], catalog⟩

/-- Turns of which no two differ. -/
def turns (_ : Nat) : Turn := ⟨"cycle", fun _ => "execution", default⟩

theorem leftAlone : service.LeftAlone settings output where
  steady := {
    configured := rfl
    autoApply := rfl
    going := rfl
    writable := trivial
    tracked := .nil }
  idle := rfl
  isOpen := {
    placed := Catalog.wellPlaced_ofTables _ _ _
    available := rfl
    failing := rfl
    faults := rfl }
  schema := rfl
  inTime := by decide +kernel
  distinct := by
    rw [InferredSchema.Distinct]
    decide +kernel
  parses := by
    -- To make the statements takes no identities of issues, which the remedies compare.
    have checked : ∀ issue ∈ (InferredSchema.ofStatements output.statements).lacks settings.rules,
        ∀ statement ∈ (DdlStatement.ofIssue issue).toOption, statement.Parses := by decide +kernel
    intro statement wished
    obtain ⟨issue, listed, made⟩ := InferredSchema.exists_lack wished
    exact checked issue listed statement (by rw [made]; rfl)

/-- The index on a column that the sources look up, under the one name that both indexes have. -/
def index (table column : Identifier) : DdlStatement :=
  .createIndex ⟨"idx_orders_item_id", by decide⟩ table [column]

/-- The catalog wants the index on a column that the sources look up. -/
theorem wants_index (table column : Identifier)
    (looked : ∃ owner ∈ Keyed.values (InferredSchema.ofStatements output.statements),
      owner.name = table.name ∧ ∃ part ∈ owner.columns.values, part.name = column.name ∧
        settings.rules.required ≤ part.filterCount ∧
        (Detection.missingIndex default owner part).remedy? settings.rules.minEvidence =
          some (index table column))
    (watched : settings.rules.watches table.name = true)
    (there : catalog.HasColumn table.name column.name)
    (without : ¬ catalog.Leads table.name column.name) :
    catalog.Wants settings.rules (.ofStatements output.statements) (index table column) := by
  obtain ⟨owner, present, named, part, used, called, enough, remedy⟩ := looked
  rw [← named] at watched there without
  rw [← called] at there without
  exact .newIndex present watched used there enough without remedy

/-- The names of the two indexes are not free: they are the same. -/
theorem not_namesFree :
    ¬ catalog.NamesFree settings.rules (.ofStatements output.statements) := by
  intro names
  have first := wants_index ⟨"orders", by decide⟩ ⟨"item_id", by decide⟩ (by decide +kernel)
    (by decide +kernel) (by decide +kernel) (by decide +kernel)
  have second := wants_index ⟨"orders_item", by decide⟩ ⟨"id", by decide⟩ (by decide +kernel)
    (by decide +kernel) (by decide +kernel) (by decide +kernel)
  have same := (names.distinct first second rfl).1
  exact absurd (congrArg Identifier.name same) (by decide)

end SharedName

end SchemaDrift
