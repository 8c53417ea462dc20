import SelectFind.Text.Cluster

/-!
# Backspaces

In a line that was typed, a backspace takes back the cluster before it. The line is cut into
clusters first, so that what is left never joins anew, and a backspace with nothing before it is
passed over. How many bytes a backspace takes back is kept in one byte: of a cluster of 256 bytes or
more only the remainder goes.
-/

namespace SelectFind.Text

/-- The backspace. -/
def backspace : Char := '\x08'

/-- What was typed so far. -/
structure Typed where
  /-- The characters that stand, the last one first. -/
  chars : List Char
  /-- How many bytes each further backspace takes back. -/
  sizes : List UInt8
  deriving DecidableEq, Repr

/-- The number of bytes of the characters in UTF-8. -/
def byteCount : List Char → Nat
  | [] => 0
  | c :: cs => c.utf8Size + byteCount cs

/-- Leaves out characters in front while they fit into the number of bytes. -/
def dropBytes : Nat → List Char → List Char
  | _, [] => []
  | n, c :: cs => if c.utf8Size ≤ n then dropBytes (n - c.utf8Size) cs else c :: cs

/-- Types one cluster, or takes one back with a backspace. -/
def Typed.press (typed : Typed) (cluster : List Char) : Typed :=
  if cluster == [backspace] then
    match typed.sizes with
    | [] => typed
    | n :: sizes => ⟨dropBytes n.toNat typed.chars, sizes⟩
  else ⟨cluster.reverse ++ typed.chars, UInt8.ofNat (byteCount cluster) :: typed.sizes⟩

/-- What stands after a line was typed. -/
def typed (cs : List Char) : List Char :=
  ((Cluster.clusters cs).foldl Typed.press ⟨[], []⟩).chars.reverse

/-- The line without its backspaces and what they take back. -/
def applyBackspaces (line : String) : String := String.ofList (typed line.toList)

private theorem chars_foldl_press {clusters : List (List Char)} (h : [backspace] ∉ clusters)
    (t : Typed) : (clusters.foldl Typed.press t).chars = clusters.flatten.reverse ++ t.chars := by
  induction clusters generalizing t with
  | nil => simp
  | cons cluster rest ih =>
    obtain ⟨hc, hr⟩ := not_or.mp (mt List.mem_cons.mpr h)
    have hp : (cluster == [backspace]) = false := beq_false_of_ne (Ne.symm hc)
    simp [ih hr, Typed.press, hp]

private theorem typed_of_not_mem {cs : List Char} (h : backspace ∉ cs) : typed cs = cs := by
  have hc : [backspace] ∉ Cluster.clusters cs := fun hm =>
    h (Cluster.flatten_clusters cs ▸ List.mem_flatten.mpr ⟨_, hm, List.mem_singleton.mpr rfl⟩)
  simp [typed, chars_foldl_press hc, Cluster.flatten_clusters]

/-- A line without backspaces stays as it is. -/
theorem applyBackspaces_of_not_mem {line : String} (h : backspace ∉ line.toList) :
    applyBackspaces line = line := by
  rw [applyBackspaces, typed_of_not_mem h, String.ofList_toList]

end SelectFind.Text
