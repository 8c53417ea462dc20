import SelectFind.Command.Report

/-!
# Samples

A row of statements that use every clause, with some that fail. Each is shown with its query, or
with the kind and the words of its error.
Spec guidance: translator specification §1 and §6.
-/

namespace SelectFind.Samples

/-- The statements. Specification §6. -/
def statements : List String :=
  ["SELECT * FROM table",
   "SELECT * FROM table OFFSET -5",
   "SELECT * FROM table LIMIT -23",
   "SELECT * FROM table OFFSET 8",
   "SELECT * FROM table LIMIT 64",
   "SELECT * FROM myNiceTable OFFSET 8 LIMIT 10",
   "SELECT * FROM `sales management` OFFSET 8 LIMIT 10",
   "SELECT X , Y , Z FROM `sales management` OFFSET 8 LIMIT 10",
   "SELECT X, Y, Z FROM `sales management` OFFSET 8 LIMIT 10",
   "SELECT X, \"looong spacy name\", Z FROM `sales management` OFFSET 8 LIMIT 10",
   "SELECT * FROM table WHERE a > b"]

/-- A statement with its query or its error. -/
def entry (sql : String) : String :=
  match Find.ofText Settings.standard sql with
  | .ok query => sql ++ " -> " ++ query ++ "\n"
  | .error e => sql ++ " -> " ++ e.kind.text ++ ": " ++ e.message ++ "\n"

/-- Shows every sample; no event is told. Specification §1. -/
def run : Report := ⟨0, String.join (statements.map entry), ""⟩

end SelectFind.Samples
