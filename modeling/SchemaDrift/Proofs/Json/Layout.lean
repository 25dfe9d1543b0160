import SchemaDrift.Json.Reader
import SchemaDrift.Json.Writer

namespace SchemaDrift.Json

/-- What holds of every value whose parts it holds of holds of every value. -/
theorem induction {motive : Json → Prop} (null : motive null) (bool : ∀ value, motive (bool value))
    (integer : ∀ value, motive (integer value)) (real : ∀ text, motive (real text))
    (string : ∀ value, motive (string value))
    (array : ∀ items, (∀ item ∈ items, motive item) → motive (array items))
    (object : ∀ members, (∀ member ∈ members, motive member.2) → motive (object members)) :
    ∀ value, motive value
  | .null => null
  | .bool value => bool value
  | .integer value => integer value
  | .real text => real text
  | .string value => string value
  | .array items => array items fun item _ =>
      induction null bool integer real string array object item
  | .object members => object members fun member among =>
      have smaller : sizeOf member.2 < 1 + sizeOf members := by
        have inside := List.sizeOf_lt_of_mem among
        cases member
        simp only [Prod.mk.sizeOf_spec] at inside ⊢
        omega
      induction null bool integer real string array object member.2

/-- What stands between the parts of a written value: before each element or member of a level, and
before the value of a member. -/
structure Layout where
  gap : Nat → List Char
  space : List Char

/-- The blanks of a text. -/
def isBlank (c : Char) : Bool := c == ' ' || c == '\n' || c == '\t' || c == '\r'

/-- Nothing but blanks stands between the parts. -/
structure Layout.Blank (layout : Layout) : Prop where
  gap : ∀ level, ∀ c ∈ layout.gap level, isBlank c = true
  space : ∀ c ∈ layout.space, isBlank c = true

def Layout.write (layout : Layout) (level : Nat) : Json → List Char
  | array [] => ['[', ']']
  | array (item :: items) =>
    '[' :: layout.gap (level + 1) ++ layout.write (level + 1) item ++
      writeItems (level + 1) items ++ layout.gap level ++ [']']
  | object [] => ['{', '}']
  | object ((key, value) :: members) =>
    '{' :: layout.gap (level + 1) ++ quote key ++ ':' :: layout.space ++
      layout.write (level + 1) value ++ writeMembers (level + 1) members ++ layout.gap level ++ ['}']
  | scalar => compact scalar
where
  /-- The elements after the first. -/
  writeItems (level : Nat) : List Json → List Char
    | [] => []
    | item :: items => ',' :: layout.gap level ++ layout.write level item ++ writeItems level items
  /-- The members after the first. -/
  writeMembers (level : Nat) : List (String × Json) → List Char
    | [] => []
    | (key, value) :: members =>
      ',' :: layout.gap level ++ quote key ++ ':' :: layout.space ++ layout.write level value ++
        writeMembers level members

/-- The layout with one element or member to a line. -/
def indented : Layout := ⟨lineBreak, [' ']⟩

/-- The layout without any blank. -/
def dense : Layout := ⟨fun _ => [], []⟩

/-- The indented layout has blanks between the parts. -/
theorem indented_blank : indented.Blank where
  gap level c present := by
    obtain rfl | present := List.mem_cons.mp present
    · rfl
    · rw [List.eq_of_mem_replicate present]
      rfl
  space c present := by
    rw [List.mem_singleton.mp present]
    rfl

/-- The dense layout has nothing between the parts. -/
theorem dense_blank : dense.Blank := ⟨fun _ => nofun, nofun⟩

/-- The indented text of a value is its form in the indented layout. -/
theorem pretty_eq_write (value : Json) (level : Nat) :
    pretty level value = indented.write level value := by
  have items : ∀ {items : List Json} (level : Nat),
      (∀ item ∈ items, ∀ level, pretty level item = indented.write level item) →
        pretty.prettyItems level items = Layout.write.writeItems indented level items := by
    intro items level each
    induction items with
    | nil => rfl
    | cons item items inductionHypothesis =>
        rw [List.forall_mem_cons] at each
        rw [pretty.prettyItems, Layout.write.writeItems, each.1, inductionHypothesis each.2]
        rfl
  have members : ∀ {members : List (String × Json)} (level : Nat),
      (∀ member ∈ members, ∀ level, pretty level member.2 = indented.write level member.2) →
        pretty.prettyMembers level members = Layout.write.writeMembers indented level members := by
    intro members level each
    induction members with
    | nil => rfl
    | cons member members inductionHypothesis =>
        rw [List.forall_mem_cons] at each
        rw [pretty.prettyMembers, Layout.write.writeMembers, each.1, inductionHypothesis each.2]
        simp [indented]
  induction value using induction generalizing level with
  | null => rfl
  | bool value => cases value <;> rfl
  | integer value => rfl
  | real text => rfl
  | string value => rfl
  | array elements each =>
      cases elements with
      | nil => rfl
      | cons item elements =>
          rw [List.forall_mem_cons] at each
          rw [pretty, Layout.write, each.1, items _ each.2]
          rfl
  | object entries each =>
      cases entries with
      | nil => rfl
      | cons entry entries =>
          rw [List.forall_mem_cons] at each
          rw [pretty, Layout.write, each.1, members _ each.2]
          simp [indented]

/-- The compact text of a value is its form in the dense layout. -/
theorem compact_eq_write (value : Json) (level : Nat) :
    compact value = dense.write level value := by
  have items : ∀ {items : List Json} {item : Json} (level : Nat),
      (∀ other ∈ item :: items, ∀ level, compact other = dense.write level other) →
        compact.compactItems (item :: items) =
          dense.write level item ++ Layout.write.writeItems dense level items := by
    intro items item level each
    induction items generalizing item with
    | nil =>
        rw [compact.compactItems, Layout.write.writeItems, List.append_nil]
        exact each item List.mem_cons_self level
    | cons next items inductionHypothesis =>
        rw [List.forall_mem_cons] at each
        rw [compact.compactItems, Layout.write.writeItems, each.1 level, inductionHypothesis each.2]
        · simp [dense]
        · exact List.cons_ne_nil next items
  have members : ∀ {members : List (String × Json)} {key : String} {value : Json} (level : Nat),
      (∀ other ∈ (key, value) :: members, ∀ level, compact other.2 = dense.write level other.2) →
        compact.compactMembers ((key, value) :: members) =
          quote key ++ ':' :: dense.write level value ++
            Layout.write.writeMembers dense level members := by
    intro members key value level each
    induction members generalizing key value with
    | nil =>
        rw [compact.compactMembers, Layout.write.writeMembers, List.append_nil]
        rw [each (key, value) List.mem_cons_self level]
    | cons next members inductionHypothesis =>
        obtain ⟨name, content⟩ := next
        rw [List.forall_mem_cons] at each
        rw [compact.compactMembers, Layout.write.writeMembers, each.1 level, inductionHypothesis each.2]
        · simp [dense]
        · exact List.cons_ne_nil _ members
  induction value using induction generalizing level with
  | null => rfl
  | bool value => rfl
  | integer value => rfl
  | real text => rfl
  | string value => rfl
  | array elements each =>
      cases elements with
      | nil => rfl
      | cons item elements =>
          rw [compact, Layout.write, items (level + 1) each]
          simp [dense]
  | object entries each =>
      cases entries with
      | nil => rfl
      | cons entry entries =>
          rw [compact, Layout.write, members (level + 1) each]
          simp [dense]

end SchemaDrift.Json
