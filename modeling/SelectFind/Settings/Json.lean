import SelectFind.Json.Form
import SelectFind.Settings

/-!
# Settings as JSON

Settings are an object, or an array of the values of the fields in order. What is missing takes its
standard value; null does not stand for it.
Spec guidance: translator specification §10.
-/

namespace SelectFind

namespace Leftover

/-- The name of a choice for leftover tokens. -/
def name : Leftover → String
  | reject => "reject"
  | ignore => "ignore"

/-- Reads a choice for leftover tokens by its name. -/
def ofJson? (j : Json) : Option Leftover := do
  let choice ← j.choice?
  [reject, ignore].find? fun leftover => leftover.name == choice

end Leftover

namespace Settings

/-- Settings as an object. Specification §10. -/
def toJson (settings : Settings) : Json :=
  .object
    [("database", .string settings.database), ("trailing_tokens", .string settings.leftover.name)]

/-- Settings from the values that are given. -/
def ofValues? (database leftover : Option Json) : Option Settings := do
  let database ← database.elim (some standard.database) Json.text?
  let leftover ← leftover.elim (some standard.leftover) Leftover.ofJson?
  return ⟨database, leftover⟩

/-- Reads settings. Specification §10. -/
def ofJson? : Json → Option Settings
  | .object fields =>
    ofValues? (Json.field? fields "database") (Json.field? fields "trailing_tokens")
  | .array [] => ofValues? none none
  | .array [database] => ofValues? database none
  | .array [database, leftover] => ofValues? database leftover
  | _ => none

end Settings
end SelectFind
