import SchemaDrift.Proofs.Ddl.Naming
import SchemaDrift.Proofs.Ddl.Parsed

namespace SchemaDrift

/-- The characters of the conventional name of the index on a column. -/
def conventionalName (table column : Identifier) : List Char :=
  "idx_".toList ++ table.name.toList ++ '_' :: column.name.toList

/-- The conventional name of the index on a column need not be cut. -/
def NameFits (table column : Identifier) : Prop :=
  Text.utf8Length (conventionalName table column) ≤ maxIdentifierLength

instance (table column : Identifier) : Decidable (NameFits table column) :=
  inferInstanceAs (Decidable (_ ≤ _))

/-- The name of the further table is that of the table, an underscore and a middle; the name of the
column is that middle, an underscore and the name of the further table's column. -/
def Straddles (table column further furtherColumn : Identifier) : Prop :=
  ∃ middle, further.name.toList = table.name.toList ++ '_' :: middle ∧
    column.name.toList = middle ++ '_' :: furtherColumn.name.toList

/-- Identifiers with the same characters are the same. -/
theorem Identifier.toList_inj {first second : Identifier} :
    first.name.toList = second.name.toList ↔ first = second := by
  constructor
  · intro same
    exact Identifier.eq_of_name_eq (String.toList_inj.mp same)
  · rintro rfl
    rfl

section Names

variable {table column further furtherColumn : Identifier}

/-- Two pairs have the same conventional name when they are the same pair or one straddles the
other. -/
theorem conventionalName_eq_iff :
    conventionalName table column = conventionalName further furtherColumn ↔
      (table = further ∧ column = furtherColumn) ∨ Straddles table column further furtherColumn ∨
        Straddles further furtherColumn table column := by
  unfold conventionalName
  rw [List.append_assoc, List.append_assoc, List.append_cancel_left_eq,
    Text.append_separator_eq_iff, Identifier.toList_inj, Identifier.toList_inj]
  rfl

/-- A name that need not be cut is the conventional one. -/
theorem indexName_of_fits (fits : NameFits table column) :
    ∃ name, indexName table column = .ok name ∧ name.name.toList = conventionalName table column := by
  obtain ⟨name, _, made, _⟩ := indexName_ok table column
  refine ⟨name, made, ?_⟩
  have conventional : indexName table column =
      Identifier.ofName (String.ofList (conventionalName table column)) := if_pos fits
  rw [conventional, Identifier.ofName] at made
  split at made
  · cases made
    exact String.toList_ofList
  · cases made

/-- Names that need not be cut are the same just where the conventional ones are. -/
theorem indexName_eq_of_fits (fits : NameFits table column)
    (furtherFits : NameFits further furtherColumn) :
    indexName table column = indexName further furtherColumn ↔
      conventionalName table column = conventionalName further furtherColumn := by
  obtain ⟨name, made, characters⟩ := indexName_of_fits fits
  obtain ⟨other, otherMade, otherCharacters⟩ := indexName_of_fits furtherFits
  rw [made, otherMade, ← characters, ← otherCharacters, Identifier.toList_inj, Except.ok.injEq]

end Names

/-- The index on every column has a valid name. Columns whose conventional names need not be cut have
the same name for their indexes just when they are the same column of one table, or when the name of
one table goes on into the name of the other's column. -/
theorem indexName_eq_iff (table column further furtherColumn : Identifier) :
    (∃ name, indexName table column = .ok name ∧ isIdentifierForm name.name.toList = true ∧
        Text.utf8Length name.name.toList ≤ maxIdentifierLength) ∧
      (NameFits table column → NameFits further furtherColumn →
        (indexName table column = indexName further furtherColumn ↔
          (table = further ∧ column = furtherColumn) ∨
            Straddles table column further furtherColumn ∨
              Straddles further furtherColumn table column)) := by
  constructor
  · obtain ⟨name, _, made, _⟩ := indexName_ok table column
    have valid := name.valid
    rw [isValidName, Bool.and_eq_true, decide_eq_true_eq] at valid
    exact ⟨name, made, valid⟩
  · intro fits furtherFits
    rw [indexName_eq_of_fits fits furtherFits, conventionalName_eq_iff]

/-- Both names fit, and the name `orders_item` goes on over the underscore behind `orders`. -/
theorem indexName_eq_iff_orders :
    let orders : Identifier := ⟨"orders", by decide⟩
    let itemId : Identifier := ⟨"item_id", by decide⟩
    let ordersItem : Identifier := ⟨"orders_item", by decide⟩
    let id : Identifier := ⟨"id", by decide⟩
    NameFits orders itemId ∧ NameFits ordersItem id ∧ Straddles orders itemId ordersItem id ∧
      indexName orders itemId = indexName ordersItem id := by
  intro orders itemId ordersItem id
  have fits : NameFits orders itemId := by decide
  have furtherFits : NameFits ordersItem id := by decide
  have straddles : Straddles orders itemId ordersItem id := ⟨"item".toList, by decide, by decide⟩
  refine ⟨fits, furtherFits, straddles, ?_⟩
  exact ((indexName_eq_iff orders itemId ordersItem id).2 fits furtherFits).mpr
    (.inr (.inl straddles))

/-- Two columns of different tables share the name of their indexes, although neither name is cut. -/
theorem indexName_shared :
    ¬ ∀ table column further furtherColumn : Identifier,
      (table, column) ≠ (further, furtherColumn) → NameFits table column →
        NameFits further furtherColumn →
          indexName table column ≠ indexName further furtherColumn := by
  intro distinct
  refine distinct ⟨"orders", by decide⟩ ⟨"item_id", by decide⟩ ⟨"orders_item", by decide⟩
    ⟨"id", by decide⟩ (by decide) (by decide) (by decide) ?_
  rw [indexName_eq_of_fits (by decide) (by decide)]
  decide

end SchemaDrift
