/-!
# Lines

A line ends with a mark, which is left out; the last line may lack it. So a row that ends with the
mark has no further line behind it.
-/

namespace SelectFind.Text

/-- A line, and whether its mark was there. -/
structure Line (α : Type) where
  content : List α
  ended : Bool

/-- The lines of a row. -/
def lines {α : Type} [BEq α] (mark : α) : List α → List (Line α)
  | [] => []
  | x :: xs =>
    if x == mark then ⟨[], true⟩ :: lines mark xs
    else
      match lines mark xs with
      | [] => [⟨[x], false⟩]
      | line :: rest => ⟨x :: line.content, line.ended⟩ :: rest

end SelectFind.Text
