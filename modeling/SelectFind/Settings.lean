/-!
# Settings

The name of the database stands in front of every query. Tokens that follow a complete statement are
refused or, on request, ignored with a warning.
Spec guidance: translator specification §2 and §10.
-/

namespace SelectFind

/-- What becomes of tokens that follow a complete statement. Specification §4.2. -/
inductive Leftover where
  | reject
  | ignore
  deriving DecidableEq, Repr

/-- The choices that a statement is read and a query is written by. Specification §10. -/
structure Settings where
  database : String := "db"
  leftover : Leftover := .reject
  deriving DecidableEq, Repr

namespace Settings

/-- The settings when nothing is chosen. -/
def standard : Settings := {}

/-- The settings with another database. -/
def withDatabase (settings : Settings) (database : String) : Settings :=
  { settings with database }

/-- The settings with another choice for leftover tokens. -/
def withLeftover (settings : Settings) (leftover : Leftover) : Settings :=
  { settings with leftover }

end Settings
end SelectFind
