import SchemaDrift.Proofs.Inference.Gathering
import SchemaDrift.Proofs.Issue.Exactness

namespace SchemaDrift

/-- What is reported missing for some statements is reported for every list that contains all of
them, whatever else it holds and in whatever order, with no less evidence. -/
theorem detectIssues_grows (rules : DetectionRules) {first second : List SourceStatement}
    (contained : ∀ statement ∈ first, statement ∈ second) (snapshot : Snapshot) (now later : Moment)
    {issue : Issue}
    (detected : issue ∈ detectIssues rules (.ofStatements first) snapshot now)
    (existence : issue.kind ∈ [.missingTable, .missingColumn, .missingIndex]) :
    ∃ other ∈ detectIssues rules (.ofStatements second) snapshot later,
      other.kind = issue.kind ∧ other.table = issue.table ∧ other.column = issue.column ∧
        issue.evidence.count ≤ other.evidence.count := by
  obtain ⟨table, present, watched, difference⟩ := mem_detectIssues_iff.mp detected
  generalize known : snapshot.table? table.name = live at difference
  cases difference with
  | missingTable =>
      obtain ⟨other, among, name, more⟩ :=
        InferredSchema.exists_table_of_contained contained present
      rw [← name] at known watched
      refine ⟨Detection.missingTable rules later other, mem_detectIssues_iff.mpr
        ⟨other, among, watched, known ▸ .missingTable⟩, rfl, name, rfl, more⟩
  | @missingColumn live column used absent =>
      obtain ⟨other, among, name, wanted, uses, same, more, _⟩ :=
        InferredSchema.exists_column_of_contained contained present used
      rw [← name] at known watched
      rw [← same] at absent
      exact ⟨Detection.missingColumn rules later other wanted, mem_detectIssues_iff.mpr
        ⟨other, among, watched, known ▸ .missingColumn uses absent⟩, rfl, name,
        congrArg some same, more⟩
  | typeMismatch used shown made =>
      rw [(Detection.typeMismatch?_some made).1] at existence
      exact absurd existence (by decide)
  | @missingIndex live column found used shown enough without =>
      obtain ⟨other, among, name, wanted, uses, same, _, more⟩ :=
        InferredSchema.exists_column_of_contained contained present used
      rw [← name] at known watched
      rw [← same] at shown without
      exact ⟨Detection.missingIndex later other wanted, mem_detectIssues_iff.mpr
        ⟨other, among, watched, known ▸ .missingIndex uses shown (enough.trans more) without⟩, rfl,
        name, congrArg some same, more⟩

namespace Sign

def filtering (line : Nat) (value : ValueContext) : SourceStatement where
  text := "SELECT id FROM users WHERE sign = ?"
  location := ⟨"app.py", line, none⟩
  usage := ⟨.select, none, ["users"], [⟨"users", "sign", .filter, some .equality, [value]⟩]⟩

/-- The users have a sign, which has no index. -/
def snapshot : Snapshot :=
  ⟨"public", [("users", ⟨"users", [⟨"sign", .string, "text", true, none⟩], [], []⟩)]⟩

/-- The index that one statement asks for is still asked for when a statement before it compares the
column with a value of another type. -/
theorem detectIssues_grows_sign :
    ∃ issue ∈ detectIssues ⟨1, fun _ => false⟩
        (.ofStatements [filtering 3 .boolean, filtering 7 (.number "4")]) snapshot default,
      issue.kind = .missingIndex ∧ issue.table = "users" ∧ issue.column = some "sign" ∧
        1 ≤ issue.evidence.count := by
  have detected : ∃ issue ∈ detectIssues ⟨1, fun _ => false⟩
      (.ofStatements [filtering 7 (.number "4")]) snapshot default,
      issue.kind = .missingIndex ∧ issue.table = "users" ∧ issue.column = some "sign" ∧
        issue.evidence.count = 1 := by
    decide +kernel
  have contained : ∀ statement ∈ [filtering 7 (.number "4")],
      statement ∈ [filtering 3 .boolean, filtering 7 (.number "4")] :=
    fun _ => List.mem_cons_of_mem _
  obtain ⟨issue, among, kind, table, column, count⟩ := detected
  have existence : issue.kind ∈ [.missingTable, .missingColumn, .missingIndex] := by
    rw [kind]
    decide
  obtain ⟨other, found, kinds, tables, columns, more⟩ := detectIssues_grows ⟨1, fun _ => false⟩
    contained snapshot default default among existence
  exact ⟨other, found, kinds.trans kind, tables.trans table, columns.trans column, count ▸ more⟩

end Sign

end SchemaDrift
