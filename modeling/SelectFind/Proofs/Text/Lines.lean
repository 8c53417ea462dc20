import SelectFind.Text.Blank
import SelectFind.Text.Decimal
import SelectFind.Text.Lines
import Mathlib.Data.List.TakeWhile

/-!
# Lines and their blanks

A row is its last line, or a line that ends with its mark and another row: an induction over a row
goes from mark to mark. Trimming a line takes away the blanks in front of it and those behind it,
and nothing else.
-/

namespace SelectFind.Text

/-! ### Lines -/

section

variable {α : Type} [BEq α] [LawfulBEq α]

/-- A row without the mark is one line, unless it is empty. -/
theorem lines_of_notMem (mark : α) (line : List α) (h : mark ∉ line) (hne : line ≠ []) :
    lines mark line = [⟨line, false⟩] := by
  induction line with
  | nil => exact absurd rfl hne
  | cons x line ih =>
    obtain ⟨hx, hl⟩ := not_or.mp (mt List.mem_cons.mpr h)
    rw [lines, if_neg (by simpa using Ne.symm hx)]
    cases line with
    | nil => rfl
    | cons y line => rw [ih hl (List.cons_ne_nil _ _)]

/-- A line ends at its mark. -/
theorem lines_append_mark (mark : α) (line rest : List α) (h : mark ∉ line) :
    lines mark (line ++ mark :: rest) = ⟨line, true⟩ :: lines mark rest := by
  induction line with
  | nil => rw [List.nil_append, lines, if_pos (beq_self_eq_true mark)]
  | cons x line ih =>
    obtain ⟨hx, hl⟩ := not_or.mp (mt List.mem_cons.mpr h)
    rw [List.cons_append, lines, if_neg (by simpa using Ne.symm hx), ih hl]

/-- What holds of rows without the mark, and of a line with its mark in front of any row that it
holds of, holds of every row. -/
@[elab_as_elim]
theorem induction_lines {motive : List α → Prop} (mark : α)
    (last : ∀ line, mark ∉ line → motive line)
    (ended : ∀ line rest, mark ∉ line → motive rest → motive (line ++ mark :: rest))
    (row : List α) : motive row := by
  induction hn : row.length using Nat.strongRecOn generalizing row with
  | ind n ih =>
    by_cases hm : mark ∈ row
    · obtain ⟨line, rest, rfl, hl⟩ := List.eq_append_cons_of_mem hm
      refine ended line rest hl (ih rest.length ?_ rest rfl)
      rw [← hn, List.length_append, List.length_cons]
      omega
    · exact last row hm

/-- Behind a mark the lines start anew. -/
theorem lines_append_ended (mark : α) (front rest : List α) :
    lines mark (front ++ mark :: rest) = lines mark (front ++ [mark]) ++ lines mark rest := by
  induction front using induction_lines mark with
  | last line h =>
    rw [lines_append_mark mark line rest h, lines_append_mark mark line [] h]
    rfl
  | ended line front h ih =>
    rw [List.append_assoc, List.append_assoc, List.cons_append, List.cons_append,
      lines_append_mark mark line _ h, lines_append_mark mark line _ h, ih, List.cons_append]

/-- No line holds the mark. -/
theorem mark_notMem_of_mem_lines (mark : α) (row : List α) :
    ∀ line ∈ lines mark row, mark ∉ line.content := by
  induction row using induction_lines mark with
  | last line h =>
    cases line with
    | nil => simp [lines]
    | cons x line =>
      rw [lines_of_notMem mark _ h (List.cons_ne_nil _ _)]
      simpa using h
  | ended line rest h ih =>
    rw [lines_append_mark mark line rest h, List.forall_mem_cons]
    exact ⟨h, ih⟩

end

/-! ### Blanks at the ends -/

private theorem isBlank_of_mem_takeWhile (cs : List Char) :
    ∀ c ∈ cs.takeWhile isBlank, isBlank c = true :=
  List.all_eq_true.mp List.all_takeWhile

/-- A line is what trimming leaves of it between blanks. -/
theorem exists_eq_append_trimBlanks (cs : List Char) :
    ∃ back, (∀ c ∈ back, isBlank c = true) ∧
      cs = cs.takeWhile isBlank ++ (trimBlanks cs ++ back) := by
  refine ⟨((dropBlanks cs).reverse.takeWhile isBlank).reverse, ?_, ?_⟩
  · intro c hc
    exact isBlank_of_mem_takeWhile _ c (List.mem_reverse.mp hc)
  · rw [trimBlanks, dropBlanks, ← List.reverse_append, List.takeWhile_append_dropWhile,
      List.reverse_reverse, dropBlanks, List.takeWhile_append_dropWhile]

/-- What trimming leaves stands in the line. -/
theorem trimBlanks_isInfix (cs : List Char) : trimBlanks cs <:+: cs := by
  obtain ⟨back, _, h⟩ := exists_eq_append_trimBlanks cs
  exact ⟨cs.takeWhile isBlank, back, by rw [List.append_assoc, ← h]⟩

private theorem trimBlanks_append_blanks (cs w : List Char) (hw : ∀ c ∈ w, isBlank c = true) :
    trimBlanks (cs ++ w) = trimBlanks cs := by
  have hd : dropBlanks (cs ++ w) = if (dropBlanks cs).isEmpty then [] else dropBlanks cs ++ w := by
    have hn : w.dropWhile isBlank = [] := List.dropWhile_eq_nil_iff.mpr hw
    rw [dropBlanks, List.dropWhile_append, hn]
    rfl
  rw [trimBlanks, hd]
  cases hc : dropBlanks cs with
  | nil => simp [trimBlanks, hc]
  | cons x xs =>
    have hr : ∀ c ∈ w.reverse, isBlank c = true := fun c h ↦ hw c (List.mem_reverse.mp h)
    rw [trimBlanks, hc, List.isEmpty_cons, if_neg Bool.false_ne_true, List.reverse_append,
      dropBlanks, List.dropWhile_append_of_pos hr]
    rfl

/-- Trimming a text takes away blanks that were put behind it. -/
theorem trim_append_blanks (s w : String) (hw : ∀ c ∈ w.toList, isBlank c = true) :
    trim (s ++ w) = trim s := by
  rw [trim, trim, String.toList_append, trimBlanks_append_blanks s.toList w.toList hw]

/-! ### Texts without a line feed -/

/-- A numeral has no line feed. -/
@[simp] theorem lineFeed_notMem_decimal (n : Nat) : '\n' ∉ (decimal n).toList := by
  intro h
  rw [decimal, String.toList_ofList] at h
  have hd := Nat.isDigit_of_mem_toDigits (by decide) (by decide) h
  exact absurd hd (by decide)

/-- A numeral with a sign has no line feed. -/
@[simp] theorem lineFeed_notMem_signedDecimal (i : Int) : '\n' ∉ (signedDecimal i).toList := by
  cases i with
  | ofNat n => exact lineFeed_notMem_decimal n
  | negSucc n => simp [signedDecimal]

/-- Texts without a line feed are joined to one without. -/
theorem lineFeed_notMem_intercalate (separator : String) (texts : List String)
    (hs : '\n' ∉ separator.toList) (ht : ∀ t ∈ texts, '\n' ∉ t.toList) :
    '\n' ∉ (separator.intercalate texts).toList := by
  induction texts with
  | nil => simp
  | cons t texts ih =>
    obtain ⟨hfirst, hrest⟩ := List.forall_mem_cons.mp ht
    cases texts with
    | nil => rwa [String.intercalate_singleton]
    | cons u texts =>
      rw [String.intercalate_cons_cons, String.toList_append, String.toList_append, List.mem_append,
        List.mem_append, not_or, not_or]
      exact ⟨⟨hfirst, hs⟩, ih hrest⟩

end SelectFind.Text
