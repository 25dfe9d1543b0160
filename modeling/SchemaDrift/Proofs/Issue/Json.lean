import Mathlib.Tactic.MkIffOfInductiveProp
import SchemaDrift.Proofs.LogicalType.Json

namespace SchemaDrift

/-- The moment is read from its text. -/
def Moment.Dated (moment : Moment) : Prop := Moment.ofText? moment.text = some moment

instance (moment : Moment) : Decidable moment.Dated := inferInstanceAs (Decidable (_ = some moment))

/-- A kind is read from its code. -/
theorem IssueKind.ofJson?_toJson (kind : IssueKind) : ofJson? kind.toJson = some kind := by
  cases kind <;> decide

/-- A risk is read from its code. -/
theorem Risk.ofJson?_toJson (risk : Risk) : ofJson? risk.toJson = some risk := by
  cases risk <;> decide

/-- A station is read from its name. -/
theorem IssueStatus.ofJson?_toJson (status : IssueStatus) : ofJson? status.toJson = some status := by
  cases status <;> decide

/-- A moment is read from its form when it is read from its text. -/
theorem Moment.Dated.read {moment : Moment} (dated : moment.Dated) :
    ofJson? moment.toJson = some moment := by
  simp only [ofJson?, toJson, Json.text?_string, Option.bind_eq_bind, Option.bind_some]
  exact dated

namespace Location

/-- The line and the column of a place have 64 bits. -/
@[mk_iff]
structure Sound (location : Location) : Prop where
  line : location.line ≤ Json.word64
  column : ∀ column ∈ location.column, column ≤ Json.word64

instance (location : Location) : Decidable location.Sound :=
  decidable_of_iff _ (sound_iff location).symm

variable {location : Location}

/-- The numbers of a sound place are whole. -/
theorem Sound.whole (sound : location.Sound) : location.toJson.Whole := by
  obtain ⟨file, line, column⟩ := location
  have number := (Json.whole_ofNat_iff line).mpr sound.line
  cases column with
  | none => exact ⟨trivial, number, trivial⟩
  | some column =>
      have offset := (Json.whole_ofNat_iff column).mpr (sound.column column rfl)
      exact ⟨trivial, number, offset, trivial⟩

/-- The form of a place is one object. -/
theorem depth_toJson (location : Location) : location.toJson.depth = 1 := by
  obtain ⟨file, line, column⟩ := location
  cases column <;> rfl

/-- A sound place is read from its form. -/
theorem Sound.read (sound : location.Sound) : ofJson? location.toJson = some location := by
  obtain ⟨file, line, column⟩ := location
  have number : Json.nat? Json.word64 (Json.ofNat line) = some line := Json.nat?_ofNat sound.line
  cases column with
  | none =>
      simp [ofJson?, toJson, Json.members?, Json.required, Json.optional, Json.valuesOf_cons,
        Json.valuesOf_nil, Json.text?_string, number]
  | some column =>
      have offset : Json.nullable? (·.nat? Json.word64) (Json.ofNat column) = some (some column) :=
        Json.nullable?_of_read rfl (Json.nat?_ofNat (sound.column column rfl))
      simp [ofJson?, toJson, Json.members?, Json.required, Json.optional, Json.valuesOf_cons,
        Json.valuesOf_nil, Json.text?_string, number, offset]

end Location

namespace Evidence

/-- The number of the sites has 64 bits, and those in the sample are sound. -/
@[mk_iff]
structure Sound (evidence : Evidence) : Prop where
  count : evidence.count ≤ Json.word64
  sites : ∀ site ∈ evidence.sites, site.Sound

instance (evidence : Evidence) : Decidable evidence.Sound :=
  decidable_of_iff _ (sound_iff evidence).symm

variable {evidence : Evidence}

theorem Sound.whole (sound : evidence.Sound) : evidence.toJson.Whole :=
  ⟨(Json.whole_ofNat_iff _).mpr sound.count,
    (Json.whole_map_iff _).mpr fun site among => (sound.sites site among).whole, trivial, trivial⟩

/-- The form of evidence has the object of a site in the list of the sites in an object. -/
theorem depth_toJson_le (evidence : Evidence) : evidence.toJson.depth ≤ 3 := by
  have sites : (Json.array (evidence.sites.map Location.toJson)).depth ≤ 2 :=
    (Json.depth_map_le_iff _ 1).mpr fun site _ => (Location.depth_toJson site).le
  rw [toJson, Json.depth_object_le_iff]
  simpa [Json.ofNat, Json.depth] using sites

theorem Sound.read (sound : evidence.Sound) : ofJson? evidence.toJson = some evidence := by
  have count := Json.nat?_ofNat sound.count
  have sites := Json.list?_map fun site among => (sound.sites site among).read
  simp [ofJson?, toJson, Json.members?, Json.required, Json.valuesOf_cons, Json.valuesOf_nil,
    Json.text?_string, count, sites]

end Evidence

namespace ExpectedColumn

theorem whole_toJson (column : ExpectedColumn) : column.toJson.Whole :=
  ⟨trivial, (Json.whole_ofOption_iff _).mpr fun type _ => type.whole_toJson, trivial⟩

/-- The form of an expected column is one deeper than that of its type. -/
theorem depth_toJson_le_iff (column : ExpectedColumn) (limit : Nat) :
    column.toJson.depth ≤ limit + 2 ↔ ∀ type ∈ column.type, type.depth ≤ limit := by
  rw [toJson, Json.depth_object_le_iff]
  simp [Json.depth, Json.depth_ofOption_le_iff, LogicalType.depth_toJson]

/-- An expected column is read from its form when its type is not too deep. -/
theorem ofJson?_toJson {column : ExpectedColumn}
    (shallow : ∀ type ∈ column.type, type.depth < 128) : ofJson? column.toJson = some column := by
  have type := Json.nullable?_ofOption fun type (known : type ∈ column.type) =>
    ⟨type.isNull_toJson, LogicalType.ofJson?_toJson (shallow type known)⟩
  simp [ofJson?, toJson, Json.members?, Json.required, Json.optional, Json.valuesOf_cons,
    Json.valuesOf_nil, Json.text?_string, type]

end ExpectedColumn

namespace Issue

/-- The numbers of the issue have 64 bits and its moments are read from their texts. -/
@[mk_iff]
structure Sound (issue : Issue) : Prop where
  detectedAt : issue.detectedAt.Dated
  lastSeenAt : issue.lastSeenAt.Dated
  resolvedAt : ∀ moment ∈ issue.resolvedAt, moment.Dated
  evidence : issue.evidence.Sound

instance (issue : Issue) : Decidable issue.Sound := decidable_of_iff _ (sound_iff issue).symm

/-- The types of the issue nest so little that a text can hold them: a type stands in its own object,
in that of the issue and in the list of the issues, and that of an expected column in two more. -/
@[mk_iff]
structure Shallow (issue : Issue) : Prop where
  expectedType : ∀ type ∈ issue.expectedType, type.depth + 3 ≤ Json.maxDepth
  actualType : ∀ type ∈ issue.actualType, type.depth + 3 ≤ Json.maxDepth
  expectedColumns :
    ∀ column ∈ issue.expectedColumns, ∀ type ∈ column.type, type.depth + 5 ≤ Json.maxDepth

instance (issue : Issue) : Decidable issue.Shallow := decidable_of_iff _ (shallow_iff issue).symm

variable {issue : Issue}

theorem Sound.whole (sound : issue.Sound) : issue.toJson.Whole := by
  have resolvedAt : (Json.ofOption Moment.toJson issue.resolvedAt).Whole :=
    (Json.whole_ofOption_iff _).mpr fun _ _ => trivial
  have expectedType := (Json.whole_ofOption_iff issue.expectedType).mpr fun type _ =>
    type.whole_toJson
  have actualType := (Json.whole_ofOption_iff issue.actualType).mpr fun type _ => type.whole_toJson
  have columns := (Json.whole_map_iff issue.expectedColumns).mpr fun column _ =>
    column.whole_toJson
  rw [toJson, Json.whole_object_iff]
  simp [jsonMembers, IssueKind.toJson, Moment.toJson, Risk.toJson, IssueStatus.toJson,
    Json.whole_string, Json.whole_ofText?, resolvedAt, sound.evidence.whole, expectedType,
    actualType, columns]

/-- The form of an issue leaves room for the list around it just when its types are shallow. -/
theorem depth_toJson_lt_iff (issue : Issue) :
    issue.toJson.depth < Json.maxDepth ↔ issue.Shallow := by
  have evidence := issue.evidence.depth_toJson_le.trans (show 3 ≤ 125 by decide)
  rw [shallow_iff, toJson, Json.maxDepth, Nat.lt_succ_iff, Json.depth_object_le_iff]
  simp only [jsonMembers, IssueKind.toJson, Moment.toJson, Risk.toJson, IssueStatus.toJson,
    List.mem_cons, List.not_mem_nil, or_false, forall_eq_or_imp, forall_eq, Json.depth_string,
    Json.depth_ofText?, Json.depth_ofOption_le_iff, Json.depth_map_le_iff,
    LogicalType.depth_toJson_le_iff, ExpectedColumn.depth_toJson_le_iff, evidence, Nat.zero_le,
    implies_true, and_self, and_true, true_and, Nat.reduceLeDiff]

/-- Each member of the form of an issue is found under its name. -/
theorem valuesOf_jsonMembers (issue : Issue) {members : List (String × Json)}
    (written : issue.jsonMembers = members) :
    ∀ member ∈ members, Json.valuesOf member.1 issue.jsonMembers = [member.2] := by
  have distinct : (issue.jsonMembers.map Prod.fst).Nodup := by
    simp only [jsonMembers, List.map_cons, List.map_nil]
    decide
  intro member among
  exact Json.valuesOf_of_mem distinct (written ▸ among)

/-- A sound issue with shallow types is read from its form. -/
theorem Sound.read (sound : issue.Sound) (shallow : issue.Shallow) :
    ofJson? issue.toJson = some issue := by
  have below {depth around : Nat} (fits : depth + around ≤ Json.maxDepth) : depth < 128 :=
    Nat.lt_succ_of_le ((Nat.le_add_right depth around).trans fits)
  have resolvedAt := Json.nullable?_ofOption fun moment (known : moment ∈ issue.resolvedAt) =>
    ⟨rfl, (sound.resolvedAt moment known).read⟩
  have expectedType := Json.nullable?_ofOption fun type (known : type ∈ issue.expectedType) =>
    ⟨type.isNull_toJson, LogicalType.ofJson?_toJson (below (shallow.expectedType type known))⟩
  have actualType := Json.nullable?_ofOption fun type (known : type ∈ issue.actualType) =>
    ⟨type.isNull_toJson, LogicalType.ofJson?_toJson (below (shallow.actualType type known))⟩
  have columns := Json.list?_map fun column (among : column ∈ issue.expectedColumns) =>
    ExpectedColumn.ofJson?_toJson fun type known =>
      below (shallow.expectedColumns column among type known)
  have found := issue.valuesOf_jsonMembers (jsonMembers.eq_1 issue)
  simp only [List.forall_mem_cons] at found
  obtain ⟨id, kind, table, column, detected, seen, resolved, evidence, wanted, actual, wantedType,
    presentType, wantedColumns, risk, status, rejection, failure, -⟩ := found
  rw [toJson, ofJson?, Json.members?, Option.bind_eq_bind, Option.bind_some,
    Json.required_bind id (Json.text?_string _), Json.required_bind kind issue.kind.ofJson?_toJson,
    Json.required_bind table (Json.text?_string _),
    Json.optional_bind column (Json.nullable?_ofText? _),
    Json.required_bind detected sound.detectedAt.read, Json.required_bind seen sound.lastSeenAt.read,
    Json.optional_bind resolved resolvedAt, Json.required_bind evidence sound.evidence.read,
    Json.optional_bind wanted (Json.nullable?_ofText? _),
    Json.optional_bind actual (Json.nullable?_ofText? _),
    Json.optional_bind wantedType expectedType, Json.optional_bind presentType actualType,
    Json.defaulted_bind wantedColumns columns, Json.required_bind risk issue.risk.ofJson?_toJson,
    Json.required_bind status issue.status.ofJson?_toJson,
    Json.optional_bind rejection (Json.nullable?_ofText? _),
    Json.optional_bind failure (Json.nullable?_ofText? _)]

end Issue

end SchemaDrift
