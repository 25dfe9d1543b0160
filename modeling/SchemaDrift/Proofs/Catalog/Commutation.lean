import SchemaDrift.Proofs.Ddl.Reach

namespace SchemaDrift.Catalog

/-- A failure, unless the catalog runs texts in time and is not told to fail on this one. -/
def allow (catalog : Catalog) (text : String) (limit : Span) : Except CatalogError Unit := do
  if limit.nanos < catalog.latency.nanos then throw (.timeout limit)
  catalog.checkAvailable
  match catalog.failing.find? fun pattern => Text.containsPart pattern.toList text.toList with
  | some pattern => throw (.execution (BatchError.simulated pattern).message)
  | none => return ()

/-- The table that takes the place of the statement's own when a catalog is asked to run it. -/
def answer (catalog : Catalog) (statement : DdlStatement) (limit : Span) :
    Except CatalogError (Option LiveTable) := do
  catalog.allow statement.toDdl limit
  (statement.effect catalog.schema catalog.tables).mapError fun error => .execution error.message

/-- The catalog after a statement was answered, and why the statement had no effect. -/
def settle (catalog : Catalog) (statement : DdlStatement) :
    Except CatalogError (Option LiveTable) → Catalog × Option CatalogError
  | .ok placed => ({ catalog with
      tables := statement.place catalog.schema catalog.tables placed
      log := catalog.log ++ [⟨[statement.toDdl], true⟩] }, none)
  | .error error => ({ catalog with
      log := catalog.log ++ [⟨[statement.toDdl], false⟩] }, some error)

variable {catalog : Catalog}

/-- A statement that is parsed as itself is executed as it is answered. -/
theorem execute_toDdl (ordered : catalog.tables.Ordered) {statement : DdlStatement}
    (parses : statement.Parses) (limit : Span) :
    catalog.execute [statement.toDdl] limit =
      catalog.settle statement (catalog.answer statement limit) := by
  have single : catalog.runBatch [statement.toDdl] =
      catalog.runText catalog.tables statement.toDdl := by
    rw [runBatch, List.foldlM_cons]
    cases catalog.runText catalog.tables statement.toDdl <;> rfl
  have run : [statement.toSql].foldlM (Definition.run catalog.schema) catalog.tables =
      (statement.effect catalog.schema catalog.tables).map
        (statement.place catalog.schema catalog.tables) := by
    rw [List.foldlM_cons, statement.run_toSql ordered]
    cases statement.effect catalog.schema catalog.tables <;> rfl
  rw [execute, attempt, answer, allow, single, runText, parses]
  simp only [run]
  by_cases late : limit.nanos < catalog.latency.nanos
  · simp only [late, if_true]
    rfl
  · simp only [late, if_false]
    cases catalog.checkAvailable with
    | error error => rfl
    | ok reached =>
        cases catalog.failing.find? fun pattern =>
            Text.containsPart pattern.toList statement.toDdl.toList with
        | some pattern => rfl
        | none => cases statement.effect catalog.schema catalog.tables <;> rfl

/-- A statement is answered after one on another table as it would be before it. -/
theorem answer_settle (ordered : catalog.tables.Ordered) {first second : DdlStatement}
    (different : first.table ≠ second.table)
    (apart : ∀ name ∈ first.wanted catalog.schema catalog.tables,
      name ∉ second.wanted catalog.schema catalog.tables) (limit other : Span) :
    (catalog.settle first (catalog.answer first limit)).1.answer second other =
      catalog.answer second other := by
  cases answered : catalog.answer first limit with
  | error error => rfl
  | ok placed =>
      have effective : first.effect catalog.schema catalog.tables = .ok placed := by
        rw [answer, Result.check_bind_ok_iff, Result.mapError_ok_iff] at answered
        exact answered.2
      have same := DdlStatement.effect_place ordered different apart effective
      simp only [settle, answer, same]
      rfl

/-- The answers of two statements on different tables may settle in either order. -/
theorem settle_comm (ordered : catalog.tables.Ordered) {first second : DdlStatement}
    (different : first.table ≠ second.table)
    (answered replied : Except CatalogError (Option LiveTable)) :
    let last := ((catalog.settle first answered).1.settle second replied).1
    let swapped := ((catalog.settle second replied).1.settle first answered).1
    { last with log := swapped.log } = swapped ∧ last.log.Perm swapped.log := by
  have records : ∀ record other : BatchRecord,
      (catalog.log ++ [record] ++ [other]).Perm (catalog.log ++ [other] ++ [record]) := by
    intro record other
    rw [List.append_assoc, List.append_assoc]
    exact (List.Perm.swap other record []).append_left catalog.log
  cases answered with
  | error failure => cases replied <;> exact ⟨rfl, records _ _⟩
  | ok placed =>
      cases replied with
      | error failure => exact ⟨rfl, records _ _⟩
      | ok other =>
          refine ⟨?_, records _ _⟩
          simp only [settle, DdlStatement.place_comm ordered different placed other]

/-- Two statements on different tables, of which none wants an index that the other wants, are
answered alike in either order of their calls, and the catalog comes out the same but for the order
in which its record names them. -/
theorem execute_comm (ordered : catalog.tables.Ordered) {first second : DdlStatement}
    (parses : first.Parses) (parsed : second.Parses) (different : first.table ≠ second.table)
    (apart : ∀ name ∈ first.wanted catalog.schema catalog.tables,
      name ∉ second.wanted catalog.schema catalog.tables) (limit other : Span) :
    let alone := catalog.execute [first.toDdl] limit
    let single := catalog.execute [second.toDdl] other
    let last := alone.1.execute [second.toDdl] other
    let swapped := single.1.execute [first.toDdl] limit
    swapped.2 = alone.2 ∧ last.2 = single.2 ∧
      { last.1 with log := swapped.1.log } = swapped.1 ∧ last.1.log.Perm swapped.1.log := by
  intro alone single last swapped
  have turned : ∀ name ∈ second.wanted catalog.schema catalog.tables,
      name ∉ first.wanted catalog.schema catalog.tables :=
    fun name wanted also => apart name also wanted
  have kept : ∀ (statement : DdlStatement) (answered : Except CatalogError (Option LiveTable)),
      (catalog.settle statement answered).1.tables.Ordered := by
    intro statement answered
    cases answered with
    | error error => exact ordered
    | ok placed => exact DdlStatement.ordered_place ordered statement placed
  have told : ∀ (before : Catalog) (statement : DdlStatement)
      (answered : Except CatalogError (Option LiveTable)),
      (before.settle statement answered).2 = (catalog.settle statement answered).2 := by
    intro before statement answered
    cases answered <;> rfl
  simp only [alone, single, last, swapped, execute_toDdl ordered parses,
    execute_toDdl ordered parsed, execute_toDdl (kept _ _) parses, execute_toDdl (kept _ _) parsed,
    answer_settle ordered different apart, answer_settle ordered (Ne.symm different) turned]
  exact ⟨told _ _ _, told _ _ _, settle_comm ordered different _ _⟩

namespace Orders

def ordersOnly : Catalog :=
  .ofTables "public" ⟨0⟩ [⟨"orders", [.ofDeclaration "total" "integer"], [], []⟩]

/-- The statement that creates the users, with an index for their key. -/
def createUsers : DdlStatement :=
  .createTable ⟨"users", by decide⟩ [.surrogateKey ⟨"id", by decide⟩]

def indexTotals : DdlStatement :=
  .createIndex ⟨"idx_orders_total", by decide⟩ ⟨"orders", by decide⟩ [⟨"total", by decide⟩]

/-- The users are created and the orders get their index in either order. -/
theorem create_index_comm :
    let alone := ordersOnly.execute [createUsers.toDdl] ⟨0⟩
    let single := ordersOnly.execute [indexTotals.toDdl] ⟨0⟩
    let last := alone.1.execute [indexTotals.toDdl] ⟨0⟩
    let swapped := single.1.execute [createUsers.toDdl] ⟨0⟩
    alone.2 = none ∧ single.2 = none ∧ swapped.2 = alone.2 ∧ last.2 = single.2 ∧
      { last.1 with log := swapped.1.log } = swapped.1 ∧ last.1.log.Perm swapped.1.log := by
  have ordered : ordersOnly.tables.Ordered := List.pairwise_singleton _ _
  have parses : createUsers.Parses := by decide +kernel
  have parsed : indexTotals.Parses := by decide +kernel
  have different : createUsers.table ≠ indexTotals.table := by decide
  have apart : ∀ name ∈ createUsers.wanted ordersOnly.schema ordersOnly.tables,
      name ∉ indexTotals.wanted ordersOnly.schema ordersOnly.tables := by decide +kernel
  have created : (ordersOnly.execute [createUsers.toDdl] ⟨0⟩).2 = none := by
    rw [execute_toDdl ordered parses]
    decide +kernel
  have indexed : (ordersOnly.execute [indexTotals.toDdl] ⟨0⟩).2 = none := by
    rw [execute_toDdl ordered parsed]
    decide +kernel
  exact ⟨created, indexed, execute_comm ordered parses parsed different apart ⟨0⟩ ⟨0⟩⟩

end Orders

end SchemaDrift.Catalog
