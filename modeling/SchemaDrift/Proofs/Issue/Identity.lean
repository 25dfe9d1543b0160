import SchemaDrift.Proofs.Issue.Known
import SchemaDrift.Proofs.Issue.Exactness
import SchemaDrift.Proofs.Text.Chars
import SchemaDrift.Proofs.Text.Utf8

namespace SchemaDrift

namespace Issue

/-- The character between the parts of an identity. -/
def separator : Char := Char.ofNat 0

/-- The bytes that are hashed for the identity of a difference. -/
def keyBytes (kind : IssueKind) (table : String) (column : Option String) : List Nat :=
  Text.encodeUtf8 (keyChars kind table column)

/-- The name of the further table is that of the table, a separator and a middle; the name of the
column is that middle, a separator and the name of the further column. -/
def Overlaps (table : String) (column : Option String) (further : String)
    (furtherColumn : Option String) : Prop :=
  ∃ middle, further.toList = table.toList ++ separator :: middle ∧
    (column.getD "").toList = middle ++ separator :: (furtherColumn.getD "").toList

/-- Two sequences of bytes have the same hash, as far as it stands in an identity. -/
def Collides (first second : List Nat) : Prop :=
  first ≠ second ∧
    (Digest.hexText (Digest.sha256 first)).take 16 = (Digest.hexText (Digest.sha256 second)).take 16

section Keys

variable {kind other : IssueKind} {table further : String} {column furtherColumn : Option String}

theorem separator_notMem_code (kind : IssueKind) : separator ∉ kind.code.toList := by
  cases kind <;> decide

/-- Two texts with a separator behind the code of a kind are the same when the kinds and the rests
are. -/
theorem code_append_eq_iff {first second : List Char} :
    kind.code.toList ++ separator :: first = other.code.toList ++ separator :: second ↔
      kind = other ∧ first = second := by
  rw [Text.append_separator_eq_iff, String.toList_inj, IssueKind.code_inj]
  refine or_iff_left ?_
  rintro (⟨middle, split, _⟩ | ⟨middle, split, _⟩)
  · exact separator_notMem_code other (split ▸ by simp)
  · exact separator_notMem_code kind (split ▸ by simp)

/-- The bytes of two keys are the same when the kinds are, and the tables and columns are the same
or run over a separator in their names. -/
theorem keyBytes_eq_iff :
    keyBytes kind table column = keyBytes other further furtherColumn ↔
      kind = other ∧ ((table = further ∧ column.getD "" = furtherColumn.getD "") ∨
        Overlaps table column further furtherColumn ∨
          Overlaps further furtherColumn table column) := by
  have shape : ∀ kind table (column : Option String), keyChars kind table column =
      kind.code.toList ++ separator :: (table.toList ++ separator :: (column.getD "").toList) := by
    intro kind table column
    rw [keyChars, List.append_assoc]
    rfl
  rw [keyBytes, keyBytes, Text.encodeUtf8_inj, shape, shape, code_append_eq_iff,
    Text.append_separator_eq_iff, String.toList_inj, String.toList_inj]
  rfl

/-- A table whose name holds no separator is not run into. -/
theorem not_overlaps (clean : separator ∉ further.toList) :
    ¬ Overlaps table column further furtherColumn := by
  rintro ⟨middle, split, _⟩
  exact clean (split ▸ by simp)

/-- Two keys have the same identity when their bytes are the same or the hash collides. -/
theorem idOf_eq_iff :
    idOf kind table column = idOf other further furtherColumn ↔
      keyBytes kind table column = keyBytes other further furtherColumn ∨
        Collides (keyBytes kind table column) (keyBytes other further furtherColumn) := by
  have hashed : idOf kind table column = idOf other further furtherColumn ↔
      (Digest.hexText (Digest.sha256 (keyBytes kind table column))).take 16 =
        (Digest.hexText (Digest.sha256 (keyBytes other further furtherColumn))).take 16 := by
    rw [idOf, idOf, String.append_right_inj, Digest.shortHash, Digest.shortHash, String.ofList_inj]
    rfl
  rw [hashed, Collides]
  constructor
  · intro same
    by_cases bytes : keyBytes kind table column = keyBytes other further furtherColumn
    · exact .inl bytes
    · exact .inr ⟨bytes, same⟩
  · rintro (same | ⟨_, same⟩)
    · rw [same]
    · exact same

end Keys

/-- Two issues of one identity are kept as one. -/
theorem keys_reconcile_of_id_eq {first second : Issue} (same : first.id = second.id)
    (now : Moment) : (reconcile [] [first, second] now).keys = [first.id] := by
  have added : mergeIssue now [] first = [(first.id, first)] := rfl
  have merged : mergeIssue now [(first.id, first)] second =
      [(first.id, first.detectAgain second now)] := by
    rw [mergeIssue, ← same]
    simp only [Keyed.get?, if_true, Keyed.insert, (compareText_eq_iff first.id first.id).mpr rfl]
  rw [reconcile, Keyed.keys_mapValues, List.foldl_cons, List.foldl_cons, List.foldl_nil, added,
    merged]
  rfl

/-- Two keys are hashed from the same bytes exactly when they are of one kind and their names are the
same, an absent column counting as the empty name, or run over a separator. So keys that differ are
hashed from different bytes, and have one identity only where the hash collides, as long as no table
is named with a separator and either both or none have a column. -/
theorem keyBytes_unambiguous (kind other : IssueKind) (table further : String)
    (column furtherColumn : Option String) :
    (keyBytes kind table column = keyBytes other further furtherColumn ↔
        kind = other ∧ ((table = further ∧ column.getD "" = furtherColumn.getD "") ∨
          Overlaps table column further furtherColumn ∨
            Overlaps further furtherColumn table column)) ∧
      (separator ∉ table.toList → separator ∉ further.toList →
        column.isSome = furtherColumn.isSome →
        (kind, table, column) ≠ (other, further, furtherColumn) →
          keyBytes kind table column ≠ keyBytes other further furtherColumn ∧
            (idOf kind table column = idOf other further furtherColumn →
              Collides (keyBytes kind table column) (keyBytes other further furtherColumn))) := by
  refine ⟨keyBytes_eq_iff, fun clean furtherClean alike different => ?_⟩
  have distinct : keyBytes kind table column ≠ keyBytes other further furtherColumn := by
    rw [Ne, keyBytes_eq_iff]
    rintro ⟨rfl, ⟨rfl, names⟩ | overlaps | overlaps⟩
    · refine different ?_
      cases column <;> cases furtherColumn <;> simp_all
    · exact not_overlaps furtherClean overlaps
    · exact not_overlaps clean overlaps
  exact ⟨distinct, fun same => (idOf_eq_iff.mp same).resolve_left distinct⟩

/-- Two columns whose names make up the same characters are told apart by where the table ends. -/
theorem keyBytes_unambiguous_users :
    keyBytes .missingColumn "users" (some "age") ≠ keyBytes .missingColumn "user" (some "sage") ∧
      (idOf .missingColumn "users" (some "age") = idOf .missingColumn "user" (some "sage") →
        Collides (keyBytes .missingColumn "users" (some "age"))
          (keyBytes .missingColumn "user" (some "sage"))) :=
  (keyBytes_unambiguous .missingColumn .missingColumn "users" "user" (some "age") (some "sage")).2
    (by decide) (by decide) rfl (by decide)

/-- Keys that differ may be hashed from the same bytes: a name may hold the separator, so that the
missing columns of two tables are kept as one issue, and no column is as good as one without a name. -/
theorem keyBytes_ambiguous :
    (¬ ∀ kind other table further column furtherColumn,
        (kind, table, column) ≠ (other, further, furtherColumn) →
          keyBytes kind table column ≠ keyBytes other further furtherColumn) ∧
      (∀ evidence now, (reconcile [] [detected .missingColumn "a" (some "b\x00c") evidence now,
        detected .missingColumn "a\x00b" (some "c") evidence now] now).keys.length = 1) ∧
      keyBytes .missingTable "a" none = keyBytes .missingTable "a" (some "") := by
  have overlaps : Overlaps "a" (some "b\x00c") "a\x00b" (some "c") :=
    ⟨['b'], by decide, by decide⟩
  have same := keyBytes_eq_iff.mpr ⟨Eq.refl IssueKind.missingColumn, .inr (.inl overlaps)⟩
  refine ⟨fun distinct => distinct _ _ _ _ _ _ (by decide) same, fun evidence now => ?_, rfl⟩
  rw [keys_reconcile_of_id_eq (idOf_eq_iff.mpr (.inl same))]
  rfl

end Issue

end SchemaDrift
