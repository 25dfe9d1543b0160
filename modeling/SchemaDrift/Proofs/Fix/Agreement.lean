import SchemaDrift.Proofs.Fix.Plan
import SchemaDrift.Proofs.Fix.Synthesis
import SchemaDrift.Proofs.Fix.Wording
import SchemaDrift.Proofs.Inference.Merging
import SchemaDrift.Proofs.Inference.Places
import SchemaDrift.Proofs.Issue.Detection

namespace SchemaDrift

namespace Issue

/-- The names that the correction of an issue needs: those of its table, its column and the columns
that are expected on a missing table. -/
def names (issue : Issue) : List String :=
  issue.table :: (issue.column.toList ++ issue.expectedColumns.map (·.name))

/-- What holds of the names of an issue holds of that of its table, of its column and of the columns
that are expected. -/
theorem forall_names_iff {issue : Issue} {property : String → Prop} :
    (∀ name ∈ issue.names, property name) ↔ property issue.table ∧
      (∀ name ∈ issue.column, property name) ∧
        ∀ column ∈ issue.expectedColumns, property column.name := by
  rw [names, List.forall_mem_cons, List.forall_mem_append, List.forall_mem_map]
  simp only [Option.mem_toList, Option.mem_def]

/-- An issue has the parts that its correction asks for: its risk is that of its kind, an issue of
a missing table may expect columns while any other is about one, and a wrong type has a known one
to become. -/
structure Complete (issue : Issue) : Prop where
  risk : issue.risk = issue.kind.risk
  whole : issue.kind = .missingTable → issue.column = none
  part : issue.kind ≠ .missingTable →
    ∃ name, issue.column = some name ∧ issue.expectedColumns = []
  typed : issue.kind = .typeMismatch → ∃ type ≠ .unknown, issue.expectedType = some type

end Issue

namespace Detection

variable {rules : DetectionRules} {now : Moment} {table : InferredTable}

/-- A mismatch expects no columns, and its evidence is that of the proposed type. -/
theorem typeMismatch?_evidence {column : InferredColumn} {found : LiveColumn} {issue : Issue}
    (made : typeMismatch? rules now table column found = some issue) :
    issue.expectedColumns = [] ∧ issue.evidence.count = column.evidenceCount := by
  rw [typeMismatch?, Option.bind_eq_bind, Option.bind_eq_some_iff] at made
  obtain ⟨proposed, _, rest⟩ := made
  split at rest <;> cases rest
  exact ⟨rfl, rfl⟩

/-- What is detected has the parts that its correction asks for. -/
theorem Difference.complete {live : Option LiveTable} {issue : Issue}
    (difference : Difference rules now table live issue) : issue.Complete := by
  cases difference with
  | missingTable => exact ⟨rfl, fun _ => rfl, fun other => absurd rfl other, nofun⟩
  | missingColumn => exact ⟨rfl, nofun, fun _ => ⟨_, rfl, rfl⟩, nofun⟩
  | typeMismatch used present made =>
      obtain ⟨kind, _, column, _, risk, proposed, wanted, _, expected⟩ := typeMismatch?_some made
      have known := ((InferredColumn.proposedType_eq_some_iff _ _ _).mp wanted).2.1
      refine ⟨by rw [risk, kind]; rfl, ?_, ?_, fun _ => ⟨proposed, known, expected⟩⟩
      · rw [kind]
        exact nofun
      · exact fun _ => ⟨_, column, (typeMismatch?_evidence made).1⟩
  | missingIndex => exact ⟨rfl, nofun, fun _ => ⟨_, rfl, rfl⟩, nofun⟩

/-- What is detected of a table that is referred to, with columns that are used, has the evidence
that its kind asks for. -/
theorem Difference.required_le {live : Option LiveTable} {issue : Issue}
    (difference : Difference rules now table live issue) (referred : table.sites ≠ [])
    (used : ∀ column ∈ table.columns.values, column.usageSites ≠ []) :
    Validation.required rules.minEvidence issue.kind ≤ issue.evidence.count := by
  cases difference with
  | missingTable => exact List.length_pos_iff.mpr referred
  | missingColumn listed => exact List.length_pos_iff.mpr (used _ listed)
  | typeMismatch listed present made =>
      obtain ⟨kind, _, _, _, _, proposed, wanted, _⟩ := typeMismatch?_some made
      rw [kind, (typeMismatch?_evidence made).2]
      exact ((InferredColumn.proposedType_eq_some_iff _ _ _).mp wanted).2.2.2
  | missingIndex listed present enough => exact enough

end Detection

namespace Validation

/-- A name is refused when it is no valid name, or is denied. -/
def refuses (name : String) : Bool := !isValidName name || isDenied name

/-- A check of a name fails only for the problem of a name that is not valid. -/
theorem checkName_error_iff (name : String) (error : ValidationError) :
    checkName name = .error error ↔
      isValidName name = false ∧ error = .invalidIdentifier (Identifier.problem name) := by
  unfold checkName Identifier.ofName
  by_cases valid : isValidName name = true <;> simp [valid, eq_comm]

/-- An issue with enough evidence fails the screen for a name only. -/
theorem screen_error {minEvidence : Nat} {issue : Issue}
    (enough : required minEvidence issue.kind ≤ issue.evidence.count) {error : ValidationError}
    (failed : screen minEvidence issue = .error error) : ∃ name ∈ issue.names,
      isValidName name = false ∧ error = .invalidIdentifier (Identifier.problem name) := by
  have checked : ∀ {name : String}, name ∈ issue.names → checkName name = .error error →
      ∃ name ∈ issue.names, isValidName name = false ∧
        error = .invalidIdentifier (Identifier.problem name) :=
    fun named refused => ⟨_, named, (checkName_error_iff _ _).mp refused⟩
  unfold screen at failed
  simp only [Nat.not_lt.mpr enough, if_false] at failed
  rw [Result.bind_error_iff] at failed
  obtain table | ⟨_, _, rest⟩ := failed
  · exact checked List.mem_cons_self table
  · rw [Result.bind_error_iff] at rest
    obtain column | ⟨_, _, others⟩ := rest
    · obtain ⟨name, present, refused⟩ := Result.exists_of_forM_error column
      exact checked (List.mem_cons_of_mem _ (List.mem_append_left _ present)) refused
    · obtain ⟨expected, present, refused⟩ := Result.exists_of_forM_error others
      exact checked (List.mem_cons_of_mem _ (List.mem_append_right _
        (List.mem_map_of_mem present))) refused

end Validation

namespace DdlStatement

/-- The key that new tables get is no denied word. -/
theorem isDenied_keyName : Validation.isDenied Synthesis.keyName = false := by decide

/-- The names of indexes are no denied words. -/
theorem isDenied_indexName {table column name : Identifier}
    (made : indexName table column = .ok name) : Validation.isDenied name.name = false := by
  obtain ⟨other, rest, same, text⟩ := indexName_ok table column
  cases made.symm.trans same
  have parts : ∀ c ∈ "idx_".toList ++ rest, isIdentifierPart c = true := by
    intro c present
    refine name.isIdentifierPart_of_mem ?_
    rw [text, String.toList_ofList]
    exact present
  have mark : '_' ∈ "idx_".toList ++ rest := by simp
  rw [text]
  exact Validation.isDenied_of_mem parts mark (by decide)

/-- A statement is made for a complete issue whose names are valid. -/
theorem exists_ofIssue {issue : Issue} (complete : issue.Complete)
    (valid : ∀ name ∈ issue.names, isValidName name = true) :
    ∃ statement, ofIssue issue = .ok statement := by
  simp only [ofIssue_iff_corrects]
  obtain ⟨tableValid, columnValid, expected⟩ := Issue.forall_names_iff.mp valid
  obtain ⟨table, named⟩ : ∃ table : Identifier, table.name = issue.table := ⟨⟨_, tableValid⟩, rfl⟩
  by_cases whole : issue.kind = .missingTable
  · obtain ⟨definitions, made⟩ := Synthesis.exists_tableColumns expected
    exact ⟨_, .newTable whole named made⟩
  · obtain ⟨name, found, _⟩ := complete.part whole
    obtain ⟨column, part⟩ : ∃ column : Identifier, issue.column = some column.name :=
      ⟨⟨name, columnValid name found⟩, found⟩
    cases kind : issue.kind with
    | missingTable => exact absurd kind whole
    | missingColumn => exact ⟨_, .newColumn kind named part⟩
    | typeMismatch =>
        obtain ⟨type, known, expected⟩ := complete.typed kind
        have typed : Synthesis.expectedType issue = .ok type := by
          rw [Synthesis.expectedType, expected]
          exact if_neg known
        exact ⟨_, .newType kind named part typed⟩
    | missingIndex =>
        obtain ⟨index, _, made, _⟩ := indexName_ok table column
        exact ⟨_, .newIndex kind named part made⟩

/-- The statement for a complete issue holds a denied name exactly when the issue does. -/
theorem denied_ofIssue_iff {issue : Issue} (complete : issue.Complete) {statement : DdlStatement}
    (made : ofIssue issue = .ok statement) :
    (∀ identifier ∈ statement.identifiers, Validation.isDenied identifier.name = false) ↔
      ∀ name ∈ issue.names, Validation.isDenied name = false := by
  have parted {column : Identifier} (other : issue.kind ≠ .missingTable)
      (part : issue.column = some column.name) :
      (∀ name ∈ issue.names, Validation.isDenied name = false) ↔
        Validation.isDenied issue.table = false ∧ Validation.isDenied column.name = false := by
    obtain ⟨_, _, none⟩ := complete.part other
    simp [Issue.forall_names_iff, part, none]
  cases (ofIssue_iff_corrects _ _).mp made with
  | newTable kind named columns =>
      have listed := Synthesis.forall_tableColumns_iff columns
        (fun name => Validation.isDenied name = false) isDenied_keyName
      simp [Issue.forall_names_iff, complete.whole kind, identifiers, named, ← listed]
  | newColumn kind named part =>
      rw [parted (by simp [kind]) part]
      simp [identifiers, named, ColumnDefinition.plain]
  | newType kind named part typed =>
      rw [parted (by simp [kind]) part]
      simp [identifiers, named]
  | newIndex kind named part index =>
      rw [parted (by simp [kind]) part]
      simp [identifiers, named, isDenied_indexName index]

/-- The statement for an issue changes data exactly when it is for a wrong type. -/
theorem isDestructive_ofIssue_iff {issue : Issue} {statement : DdlStatement}
    (made : ofIssue issue = .ok statement) :
    statement.isDestructive = true ↔ issue.kind = .typeMismatch := by
  cases (ofIssue_iff_corrects _ _).mp made with
  | newTable kind => simp [isDestructive, kind]
  | newColumn kind => simp [isDestructive, kind]
  | newType kind => simp [isDestructive, kind]
  | newIndex kind => simp [isDestructive, kind]

end DdlStatement

/-- How the plan for an issue ends without an operator: it is rejected for a name that is not valid
or for one that is denied, else it waits for an operator when it is for a wrong type, else it is
ready. -/
inductive Plan.Settles (issue : Issue) (now : Moment) : Plan → Prop where
  | invalid {name : String} (named : name ∈ issue.names) (invalid : isValidName name = false) :
      Settles issue now (.rejected (.validation (.invalidIdentifier (Identifier.problem name))))
  | denied {name word : String} (named : name ∈ issue.names)
      (denied : Validation.isDenied name = true) :
      Settles issue now (.rejected (.validation (.deniedKeyword word)))
  | approval {statement : DdlStatement}
      (allowed : ∀ name ∈ issue.names, Validation.refuses name = false)
      (made : DdlStatement.ofIssue issue = .ok statement) (kind : issue.kind = .typeMismatch) :
      Settles issue now (.needsApproval (Fix.ofStatement issue statement now))
  | ready {statement : DdlStatement}
      (allowed : ∀ name ∈ issue.names, Validation.refuses name = false)
      (made : DdlStatement.ofIssue issue = .ok statement) (kind : issue.kind ≠ .typeMismatch) :
      Settles issue now (.ready ⟨Fix.ofStatement issue statement now, true⟩)

/-- The fix for a complete issue only adds unless it is for a wrong type. -/
theorem Issue.Complete.isAdditive_iff {issue : Issue} (complete : issue.Complete)
    {statement : DdlStatement} (made : DdlStatement.ofIssue issue = .ok statement) (now : Moment) :
    Validation.isAdditive (Fix.ofStatement issue statement now) = true ↔
      issue.kind ≠ .typeMismatch := by
  rw [Validation.isAdditive_ofStatement, ← Bool.not_eq_true,
    DdlStatement.isDestructive_ofIssue_iff made, complete.risk]
  cases issue.kind <;> simp [IssueKind.risk]

/-- The plan for an issue that has passed the screen is made by its statement. -/
theorem Plan.ofIssue_of_screened {minEvidence : Nat} {issue : Issue}
    (screened : Validation.screen minEvidence issue = .ok ()) {statement : DdlStatement}
    (made : DdlStatement.ofIssue issue = .ok statement) (now : Moment) :
    Plan.ofIssue minEvidence issue .automatic now =
      match Validation.deniedWord? statement.toDdl with
      | some word => .rejected (.validation (.deniedKeyword word))
      | none =>
        if Validation.isAdditive (Fix.ofStatement issue statement now) = true then
          .ready ⟨Fix.ofStatement issue statement now, true⟩
        else .needsApproval (Fix.ofStatement issue statement now) := by
  unfold Plan.ofIssue Fix.ofIssue
  simp only [screened, made, bind, Except.bind, pure, Except.pure,
    Validation.validate_ofStatement screened]
  cases Validation.deniedWord? statement.toDdl with
  | some word => rfl
  | none => cases Validation.isAdditive (Fix.ofStatement issue statement now) <;> rfl

/-- The plan for a complete issue with enough evidence is settled by its names and its kind. -/
theorem Plan.settles_ofIssue {minEvidence : Nat} {issue : Issue} (complete : issue.Complete)
    (enough : Validation.required minEvidence issue.kind ≤ issue.evidence.count) (now : Moment) :
    Plan.Settles issue now (Plan.ofIssue minEvidence issue .automatic now) := by
  cases screened : Validation.screen minEvidence issue with
  | error error =>
      obtain ⟨name, named, invalid, rfl⟩ := Validation.screen_error enough screened
      rw [Plan.ofIssue, screened]
      exact .invalid named invalid
  | ok passed =>
      have valid : ∀ name ∈ issue.names, isValidName name = true :=
        Issue.forall_names_iff.mpr ((Validation.screen_ok_iff _ _).mp screened).2
      obtain ⟨statement, made⟩ := DdlStatement.exists_ofIssue complete valid
      have words := (Validation.deniedWord?_toDdl statement).trans
        (DdlStatement.denied_ofIssue_iff complete made)
      rw [Plan.ofIssue_of_screened screened made]
      cases denied : Validation.deniedWord? statement.toDdl with
      | some word =>
          have held : ¬ ∀ name ∈ issue.names, Validation.isDenied name = false := fun allowed =>
            Option.some_ne_none word (denied.symm.trans (words.mpr allowed))
          push Not at held
          obtain ⟨name, named, held⟩ := held
          exact .denied named ((Bool.not_eq_false _).mp held)
      | none =>
          have allowed : ∀ name ∈ issue.names, Validation.refuses name = false := by
            intro name named
            rw [Validation.refuses, valid name named, words.mp denied name named]
            rfl
          have additive := complete.isAdditive_iff made now
          by_cases kind : issue.kind = .typeMismatch
          · rw [if_neg (mt additive.mp (not_not_intro kind))]
            exact .approval allowed made kind
          · rw [if_pos (additive.mpr kind)]
            exact .ready allowed made kind

/-- What is detected agrees with what is planned for it without an operator: it is rejected exactly
when one of its names is refused, for that reason and no other; else it waits for an operator
exactly when it is about a wrong type, and is ready and safe otherwise. -/
theorem plan_detectIssues (rules : DetectionRules) (statements : List SourceStatement)
    (snapshot : Snapshot) (detectedAt now : Moment) {issue : Issue}
    (listed : issue ∈ detectIssues rules (.ofStatements statements) snapshot detectedAt) :
    ((∃ error, Plan.ofIssue rules.minEvidence issue .automatic now = .rejected error) ↔
        ∃ name ∈ issue.names, Validation.refuses name = true) ∧
      ((∃ fix, Plan.ofIssue rules.minEvidence issue .automatic now = .needsApproval fix) ↔
        (∀ name ∈ issue.names, Validation.refuses name = false) ∧ issue.kind = .typeMismatch) ∧
      ((∃ fix, Plan.ofIssue rules.minEvidence issue .automatic now = .ready ⟨fix, true⟩) ↔
        (∀ name ∈ issue.names, Validation.refuses name = false) ∧ issue.kind ≠ .typeMismatch) ∧
      ∀ error, Plan.ofIssue rules.minEvidence issue .automatic now = .rejected error →
        (∃ problem, error = .validation (.invalidIdentifier problem)) ∨
          ∃ word, error = .validation (.deniedKeyword word) := by
  obtain ⟨table, present, _, difference⟩ := mem_detectIssues_iff.mp listed
  obtain ⟨referred, placed⟩ := InferredSchema.placed_of_mem present
  have settles := Plan.settles_ofIssue difference.complete
    (difference.required_le referred fun column used => (placed column used).used) now
  have opposite : (∃ name ∈ issue.names, Validation.refuses name = true) ↔
      ¬ ∀ name ∈ issue.names, Validation.refuses name = false := by simp
  rw [opposite]
  generalize Plan.ofIssue rules.minEvidence issue .automatic now = plan at settles ⊢
  cases settles with
  | invalid named invalid =>
      have refused : ¬ ∀ name ∈ issue.names, Validation.refuses name = false := fun allowed => by
        simpa [Validation.refuses, invalid] using allowed _ named
      simp [-not_forall, refused]
  | denied named denied =>
      have refused : ¬ ∀ name ∈ issue.names, Validation.refuses name = false := fun allowed => by
        simpa [Validation.refuses, denied] using allowed _ named
      simp [-not_forall, refused]
  | approval allowed made kind =>
      simpa [-not_forall, kind] using allowed
  | ready allowed made kind =>
      simpa [-not_forall, kind] using allowed

/-- A table that a statement refers to and that does not exist has a fix that is ready. -/
theorem plan_detectIssues_users :
    ∃ fix, Plan.ofIssue 2 (Detection.missingTable ⟨2, fun _ => false⟩ default
      ⟨"users", [⟨"app.py", 1, none⟩], []⟩) .automatic default = .ready ⟨fix, true⟩ := by
  have listed : Detection.missingTable ⟨2, fun _ => false⟩ default
      ⟨"users", [⟨"app.py", 1, none⟩], []⟩ ∈ detectIssues ⟨2, fun _ => false⟩
        (.ofStatements [⟨"SELECT * FROM users", ⟨"app.py", 1, none⟩,
          ⟨.select, some "users", ["users"], []⟩⟩]) ⟨"public", []⟩ default :=
    mem_detectIssues_iff.mpr ⟨_, List.mem_singleton_self _, by decide, .missingTable⟩
  exact (plan_detectIssues _ _ _ _ default listed).2.2.1.mpr ⟨by decide, by decide⟩

end SchemaDrift
