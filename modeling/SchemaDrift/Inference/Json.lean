import SchemaDrift.Inference.Schema

namespace SchemaDrift

def placesJson (places : List Location) : Json := .array (places.map (·.toJson))

/-- The JSON form of a column, with the types that a least number of places speaks for. -/
def InferredColumn.toJson (minEvidence : Nat) (column : InferredColumn) : Json :=
  .object [("name", .string column.name), ("best_type", column.bestType.toJson),
    ("evidence_count", .ofNat column.evidenceCount),
    ("usage_sites", placesJson column.usageSites), ("filter_sites", placesJson column.filterSites),
    ("filter_count", .ofNat column.filterCount), ("conflict", .bool column.conflict),
    ("conflicting", .array (column.conflicting.map (·.toJson))),
    ("declared", .ofOption (·.toJson) column.declared),
    ("supporting_sites", placesJson column.supportingSites),
    ("candidates", .ofNat column.candidates.length),
    ("proposed", .ofOption (·.toJson) (column.proposedType minEvidence)),
    ("declared_type", .ofOption (·.toJson) (column.declaredType minEvidence))]

def InferredTable.toJson (minEvidence : Nat) (table : InferredTable) : Json :=
  .object [("name", .string table.name), ("sites", placesJson table.sites),
    ("columns", .array (table.columns.values.map (·.toJson minEvidence)))]

def InferredSchema.toJson (minEvidence : Nat) (schema : InferredSchema) : Json :=
  .object [("tables", .array ((Keyed.values schema).map (·.toJson minEvidence))),
    ("conflicts", .array (schema.conflicts.map (·.toJson)))]

end SchemaDrift
