import Mathlib.Data.List.Basic

/-!
# Rows taken apart

Two rows that are put together are the same row only if they meet at the same place, as soon as
something shows where the first one ends: all its characters are of a kind that the next one is not
of, or a mark stands behind it that it does not hold. A row of parts with marks between them is its
first part and the others, each with a mark in front.
-/

namespace SelectFind.Text

/-- A row of characters splits in one way into a row of which each satisfies a condition and a rest
that starts with none that does. -/
theorem append_inj_of_forall (p : Char → Prop) (a b r s : List Char) (ha : ∀ c ∈ a, p c)
    (hb : ∀ c ∈ b, p c) (hr : ∀ c ∈ r.head?, ¬p c) (hs : ∀ c ∈ s.head?, ¬p c)
    (h : a ++ r = b ++ s) : a = b ∧ r = s := by
  induction a generalizing b with
  | nil =>
    cases b with
    | nil => exact ⟨rfl, h⟩
    | cons c b =>
      obtain rfl : r = c :: (b ++ s) := h
      exact absurd (hb c List.mem_cons_self) (hr c rfl)
  | cons c a ih =>
    cases b with
    | nil =>
      obtain rfl : c :: (a ++ r) = s := h
      exact absurd (ha c List.mem_cons_self) (hs c rfl)
    | cons e b =>
      obtain ⟨rfl, htail⟩ := List.cons.inj h
      obtain ⟨rfl, hrest⟩ := ih b (fun x hx ↦ ha x (List.mem_cons_of_mem c hx))
        (fun x hx ↦ hb x (List.mem_cons_of_mem c hx)) htail
      exact ⟨rfl, hrest⟩

/-- A row of characters splits in one way at the first occurrence of a character. -/
theorem append_cons_inj_of_notMem_front (x : Char) (a b r s : List Char) (ha : x ∉ a)
    (hb : x ∉ b) (h : a ++ x :: r = b ++ x :: s) : a = b ∧ r = s := by
  obtain ⟨hab, hrs⟩ := append_inj_of_forall (· ≠ x) a b (x :: r) (x :: s)
    (fun _ hc ↦ ne_of_mem_of_not_mem hc ha) (fun _ hc ↦ ne_of_mem_of_not_mem hc hb) (by simp)
    (by simp) h
  exact ⟨hab, (List.cons.inj hrs).2⟩

/-- A row of characters splits in one way at the last occurrence of a character. -/
theorem append_cons_inj_of_notMem_back (x : Char) (a b r s : List Char) (hr : x ∉ r)
    (hs : x ∉ s) (h : a ++ x :: r = b ++ x :: s) : a = b ∧ r = s := by
  have h := congrArg List.reverse h
  simp only [List.reverse_append, List.reverse_cons, List.append_assoc, List.singleton_append] at h
  obtain ⟨hrs, hab⟩ := append_cons_inj_of_notMem_front x _ _ _ _ (by simpa using hr)
    (by simpa using hs) h
  exact ⟨List.reverse_injective hab, List.reverse_injective hrs⟩

/-- Texts with a separator between them are the first one and the others, each behind a separator.
-/
theorem intercalate_cons (separator t : String) (texts : List String) :
    separator.intercalate (t :: texts) = t ++ String.join (texts.map (separator ++ ·)) := by
  induction texts generalizing t with
  | nil => simp
  | cons u texts ih =>
    rw [String.intercalate_cons_cons, ih u, List.map_cons, String.join_cons]
    simp only [String.append_assoc]

end SelectFind.Text
