import SelectFind.Json.Form
import SelectFind.Statement.Basic

/-!
# Statements as JSON

A statement and its names are objects; they are also read from arrays that hold the values of the
fields in order. A condition is an object with one field, which names its kind. Fields that are not
known are passed over, and what a statement may lack may be missing or null. An empty row of columns
is refused.
Spec guidance: translator specification §3 and §10.
-/

namespace SelectFind

namespace Identifier

/-- A name as an object. -/
def toJson (identifier : Identifier) : Json :=
  .object [("name", .string identifier.name), ("quoted", .bool identifier.quoted)]

/-- Reads a name. -/
def ofJson? : Json → Option Identifier
  | .object fields => do
    let name ← (← Json.field? fields "name").text?
    let quoted ← (← Json.field? fields "quoted").truth?
    return ⟨name, quoted⟩
  | .array [name, quoted] => do
    return ⟨← name.text?, ← quoted.truth?⟩
  | _ => none

end Identifier

namespace Columns

/-- Columns as an array. -/
def toJson (columns : Columns) : Json := .array (columns.toList.map Identifier.toJson)

/-- Reads columns. -/
def ofJson? (j : Json) : Option Columns := do
  ofList? (← (← j.items?).mapM Identifier.ofJson?)

end Columns

namespace Comparison

/-- The name of a comparison. -/
def name : Comparison → String
  | greaterThan => "GreaterThan"
  | lessThan => "LessThan"
  | greaterEqual => "GreaterEqual"
  | lessEqual => "LessEqual"
  | equals => "Equals"
  | notEqual => "NotEqual"

/-- Reads a comparison by its name. -/
def ofJson? (j : Json) : Option Comparison := do
  let choice ← j.choice?
  all.find? fun op => op.name == choice

end Comparison

namespace Logical

/-- The name of a logical operator. -/
def name : Logical → String
  | and => "And"
  | or => "Or"
  | not => "Not"

/-- Reads a logical operator by its name. -/
def ofJson? (j : Json) : Option Logical := do
  let choice ← j.choice?
  all.find? fun op => op.name == choice

end Logical

namespace Condition

/-- A condition as an object whose one field names its kind. -/
def toJson : Condition → Json
  | logical left op right =>
    .object [("Logical", .object
      [("left", left.toJson), ("op", .string op.name), ("right", right.toJson)])]
  | negation inner => .object [("Not", inner.toJson)]
  | comparison left op right =>
    .object [("Comparison", .object
      [("left", left.toJson), ("op", .string op.name), ("right", right.toJson)])]

/-- Reads a condition. -/
def ofJson? : Json → Option Condition
  | .object fields =>
    match _h : Json.soleField? fields with
    | some ("Logical", .object parts) =>
      match _hl : Json.field? parts "left", _hr : Json.field? parts "right" with
      | some left, some right => do
        let left ← ofJson? left
        let op ← Logical.ofJson? (← Json.field? parts "op")
        let right ← ofJson? right
        return logical left op right
      | _, _ => none
    | some ("Not", inner) => (ofJson? inner).map negation
    | some ("Comparison", .object parts) => do
      let left ← Identifier.ofJson? (← Json.field? parts "left")
      let op ← Comparison.ofJson? (← Json.field? parts "op")
      let right ← Identifier.ofJson? (← Json.field? parts "right")
      return comparison left op right
    | _ => none
  | _ => none
termination_by j => sizeOf j
decreasing_by
  · have := Json.sizeOf_of_soleField? _h
    have := Json.sizeOf_of_field? _hl
    simp at *
    omega
  · have := Json.sizeOf_of_soleField? _h
    have := Json.sizeOf_of_field? _hr
    simp at *
    omega
  · have := Json.sizeOf_of_soleField? _h
    simp at *
    omega

end Condition

namespace Statement

/-- A statement as an object. Specification §3. -/
def toJson (statement : Statement) : Json :=
  .object
    [("table", statement.table.toJson),
     ("columns", Json.ofOption Columns.toJson statement.columns),
     ("condition", Json.ofOption Condition.toJson statement.condition),
     ("offset", Json.ofOption Json.ofWord statement.offset),
     ("limit", Json.ofOption Json.ofWord statement.limit)]

/-- Reads a statement. Specification §3. -/
def ofJson? : Json → Option Statement
  | .object fields => do
    let table ← Identifier.ofJson? (← Json.field? fields "table")
    let columns ← Json.optionalField? Columns.ofJson? fields "columns"
    let condition ← Json.optionalField? Condition.ofJson? fields "condition"
    let offset ← Json.optionalField? Json.word? fields "offset"
    let limit ← Json.optionalField? Json.word? fields "limit"
    return ⟨table, columns, condition, offset, limit⟩
  | .array [table, columns, condition, offset, limit] => do
    let table ← Identifier.ofJson? table
    let columns ← Json.optional? Columns.ofJson? columns
    let condition ← Json.optional? Condition.ofJson? condition
    let offset ← Json.optional? Json.word? offset
    let limit ← Json.optional? Json.word? limit
    return ⟨table, columns, condition, offset, limit⟩
  | _ => none

end Statement
end SelectFind
