import SelectFind.Proofs.Text.Splitting
import SelectFind.Statement.Condition

/-!
# The text of a condition is unambiguous

Only joins stand between parentheses; a negation is a word in front of its condition, and a
comparison has no marks of its own. Still a text is read from the left in one way: a join opens with
a parenthesis, a negation with its word, and the three words of a comparison end at blanks, the last
one at what follows the condition. All of this needs that names are words, and not the word of a
negation. The text shows names without their delimiters, so it tells nothing of these.
-/

namespace SelectFind

/-! ### Names as words -/

/-- The name is shown as one word, and not as the word of a negation. -/
structure Identifier.IsWord (i : Identifier) : Prop where
  blank_notMem : ' ' ∉ i.name.toList
  opening_notMem : '(' ∉ i.name.toList
  closing_notMem : ')' ∉ i.name.toList
  ne_not : i.name ≠ "NOT"

instance (i : Identifier) : Decidable i.IsWord :=
  decidable_of_iff
    (' ' ∉ i.name.toList ∧ '(' ∉ i.name.toList ∧ ')' ∉ i.name.toList ∧ i.name ≠ "NOT")
    ⟨fun ⟨hb, ho, hc, hn⟩ ↦ ⟨hb, ho, hc, hn⟩,
      fun h ↦ ⟨h.blank_notMem, h.opening_notMem, h.closing_notMem, h.ne_not⟩⟩

/-- The name as if it was written without delimiters. -/
def Identifier.unquoted (i : Identifier) : Identifier := { i with quoted := false }

private theorem Identifier.unquoted_eq_iff (i j : Identifier) :
    i.unquoted = j.unquoted ↔ i.name = j.name := by
  simp [Identifier.unquoted]

private theorem Logical.word_injective (op other : Logical) (h : op.word = other.word) :
    op = other :=
  Option.some.inj (by rw [← Logical.ofWord?_word op, h, Logical.ofWord?_word])

private theorem Comparison.symbol_injective (op other : Comparison) (h : op.symbol = other.symbol) :
    op = other :=
  Option.some.inj (by rw [← Comparison.ofSymbol?_symbol op, h, Comparison.ofSymbol?_symbol])

namespace Condition

/-- The names of a condition, in the order in which they are shown. -/
def names : Condition → List Identifier
  | logical left _ right => left.names ++ right.names
  | negation inner => inner.names
  | comparison left _ right => [left, right]

/-- The condition with its names as if they were written without delimiters. -/
def unquoted : Condition → Condition
  | logical left op right => logical left.unquoted op right.unquoted
  | negation inner => negation inner.unquoted
  | comparison left op right => comparison left.unquoted op right.unquoted

/-! ### Words of a text -/

/-- The character can stand inside a word. -/
def WordChar (c : Char) : Prop := c ≠ ' ' ∧ c ≠ ')'

/-- A word ends in front of the characters: there are none, or the first is a blank or closes a
join. -/
def EndsWord (rest : List Char) : Prop := ∀ c ∈ rest.head?, ¬WordChar c

private theorem endsWord_nil : EndsWord [] := by
  rintro _ ⟨⟩

private theorem endsWord_blank (rest : List Char) : EndsWord (' ' :: rest) := by
  rintro _ ⟨⟩ h
  exact h.1 rfl

private theorem endsWord_closing (rest : List Char) : EndsWord (')' :: rest) := by
  rintro _ ⟨⟩ h
  exact h.2 rfl

private theorem word_append_inj (u v : String) (r s : List Char) (hu : ∀ c ∈ u.toList, WordChar c)
    (hv : ∀ c ∈ v.toList, WordChar c) (hr : EndsWord r) (hs : EndsWord s)
    (h : u.toList ++ r = v.toList ++ s) : u = v ∧ r = s := by
  obtain ⟨huv, hrs⟩ := Text.append_inj_of_forall WordChar _ _ r s hu hv hr hs h
  exact ⟨String.toList_injective huv, hrs⟩

private theorem wordChar_name (i : Identifier) (h : i.IsWord) : ∀ c ∈ i.name.toList, WordChar c :=
  fun _ hc ↦ ⟨ne_of_mem_of_not_mem hc h.blank_notMem, ne_of_mem_of_not_mem hc h.closing_notMem⟩

private theorem wordChar_word (op : Logical) : ∀ c ∈ op.word.toList, WordChar c := by
  have h : op.word.toList.all fun c ↦ c != ' ' && c != ')' := by cases op <;> decide
  simpa [WordChar] using h

private theorem wordChar_symbol (op : Comparison) : ∀ c ∈ op.symbol.toList, WordChar c := by
  have h : op.symbol.toList.all fun c ↦ c != ' ' && c != ')' := by cases op <;> decide
  simpa [WordChar] using h

/-! ### Texts from the left -/

private theorem text_logical_append (left right : Condition) (op : Logical) (rest : List Char) :
    (logical left op right).text.toList ++ rest =
      '(' :: (left.text.toList ++
        ' ' :: (op.word.toList ++ ' ' :: (right.text.toList ++ ')' :: rest))) := by
  simp [text]

private theorem text_negation_append (inner : Condition) (rest : List Char) :
    (negation inner).text.toList ++ rest =
      Logical.not.word.toList ++ ' ' :: (inner.text.toList ++ rest) := by
  simp [text, Logical.word]

private theorem text_comparison_append (left right : Identifier) (op : Comparison)
    (rest : List Char) : (comparison left op right).text.toList ++ rest =
      left.name.toList ++ ' ' :: (op.symbol.toList ++ ' ' :: (right.name.toList ++ rest)) := by
  simp [text]

private theorem text_logical_ne_negation (left right inner : Condition) (op : Logical)
    (r s : List Char) :
    (logical left op right).text.toList ++ r ≠ (negation inner).text.toList ++ s := by
  rw [text_logical_append, text_negation_append]
  intro h
  exact absurd (List.cons.inj h).1 (by decide)

private theorem text_logical_ne_comparison (left right : Condition) (op : Logical)
    (i j : Identifier) (cmp : Comparison) (r s : List Char) (hi : i.IsWord) :
    (logical left op right).text.toList ++ r ≠ (comparison i cmp j).text.toList ++ s := by
  rw [text_logical_append, text_comparison_append]
  intro h
  cases hn : i.name.toList with
  | nil =>
    rw [hn] at h
    exact absurd (List.cons.inj h).1 (by decide)
  | cons c cs =>
    rw [hn] at h
    have hm := hi.opening_notMem
    rw [hn, ← (List.cons.inj h).1] at hm
    exact hm List.mem_cons_self

private theorem text_negation_ne_comparison (inner : Condition) (i j : Identifier)
    (cmp : Comparison) (r s : List Char) (hi : i.IsWord) :
    (negation inner).text.toList ++ r ≠ (comparison i cmp j).text.toList ++ s := by
  rw [text_negation_append, text_comparison_append]
  intro h
  obtain ⟨hword, _⟩ := word_append_inj _ _ _ _ (wordChar_word .not) (wordChar_name i hi)
    (endsWord_blank _) (endsWord_blank _) h
  exact hi.ne_not hword.symm

private theorem text_comparison_append_inj (i j i' j' : Identifier) (op op' : Comparison)
    (r s : List Char) (hi : i.IsWord) (hj : j.IsWord) (hi' : i'.IsWord) (hj' : j'.IsWord)
    (hr : EndsWord r) (hs : EndsWord s)
    (h : (comparison i op j).text.toList ++ r = (comparison i' op' j').text.toList ++ s) :
    (comparison i op j).unquoted = (comparison i' op' j').unquoted ∧ r = s := by
  rw [text_comparison_append, text_comparison_append] at h
  obtain ⟨hleft, htail⟩ := word_append_inj _ _ _ _ (wordChar_name i hi) (wordChar_name i' hi')
    (endsWord_blank _) (endsWord_blank _) h
  obtain ⟨hop, htail⟩ := word_append_inj _ _ _ _ (wordChar_symbol op) (wordChar_symbol op')
    (endsWord_blank _) (endsWord_blank _) (List.cons.inj htail).2
  obtain ⟨hright, hrest⟩ := word_append_inj _ _ _ _ (wordChar_name j hj) (wordChar_name j' hj')
    hr hs (List.cons.inj htail).2
  rw [unquoted, unquoted, (Identifier.unquoted_eq_iff i i').mpr hleft,
    (Identifier.unquoted_eq_iff j j').mpr hright, Comparison.symbol_injective op op' hop]
  exact ⟨rfl, hrest⟩

/-- A condition and what follows it are told apart, if it is followed by the end of a word. -/
theorem text_append_inj (a b : Condition) (r s : List Char) (ha : ∀ i ∈ a.names, i.IsWord)
    (hb : ∀ i ∈ b.names, i.IsWord) (hr : EndsWord r) (hs : EndsWord s)
    (h : a.text.toList ++ r = b.text.toList ++ s) : a.unquoted = b.unquoted ∧ r = s := by
  induction a generalizing b r s with
  | logical left op right ihleft ihright =>
    cases b with
    | logical left' op' right' =>
      rw [names, List.forall_mem_append] at ha hb
      rw [text_logical_append, text_logical_append] at h
      -- The left part is followed by a blank, the right part by the closing parenthesis.
      obtain ⟨hleft, htail⟩ := ihleft left' _ _ ha.1 hb.1 (endsWord_blank _) (endsWord_blank _)
        (List.cons.inj h).2
      obtain ⟨hop, htail⟩ := word_append_inj _ _ _ _ (wordChar_word op) (wordChar_word op')
        (endsWord_blank _) (endsWord_blank _) (List.cons.inj htail).2
      obtain ⟨hright, hrest⟩ := ihright right' _ _ ha.2 hb.2 (endsWord_closing _)
        (endsWord_closing _) (List.cons.inj htail).2
      rw [unquoted, unquoted, hleft, hright, Logical.word_injective op op' hop]
      exact ⟨rfl, (List.cons.inj hrest).2⟩
    | negation inner => exact absurd h (text_logical_ne_negation _ _ _ _ _ _)
    | comparison i cmp j =>
      exact absurd h (text_logical_ne_comparison _ _ _ _ _ _ _ _ (hb i (by simp [names])))
  | negation inner ih =>
    cases b with
    | logical left op right => exact absurd h.symm (text_logical_ne_negation _ _ _ _ _ _)
    | negation inner' =>
      rw [text_negation_append, text_negation_append] at h
      obtain ⟨hinner, hrest⟩ := ih inner' r s ha hb hr hs
        (List.cons.inj (List.append_cancel_left h)).2
      rw [unquoted, unquoted, hinner]
      exact ⟨rfl, hrest⟩
    | comparison i cmp j =>
      exact absurd h (text_negation_ne_comparison _ _ _ _ _ _ (hb i (by simp [names])))
  | comparison i op j =>
    cases b with
    | logical left' op' right' =>
      exact absurd h.symm (text_logical_ne_comparison _ _ _ _ _ _ _ _ (ha i (by simp [names])))
    | negation inner =>
      exact absurd h.symm (text_negation_ne_comparison _ _ _ _ _ _ (ha i (by simp [names])))
    | comparison i' op' j' =>
      simp only [names, List.forall_mem_cons] at ha hb
      exact text_comparison_append_inj i j i' j' op op' r s ha.1 ha.2.1 hb.1 hb.2.1 hr hs h

private theorem text_unquoted (c : Condition) : c.unquoted.text = c.text := by
  induction c with
  | logical left op right ihleft ihright => rw [unquoted, text, text, ihleft, ihright]
  | negation inner ih => rw [unquoted, text, text, ih]
  | comparison left op right => rfl

/-- Conditions of any depth whose names are words have one text exactly if they are equal up to the
delimiters of their names. -/
theorem text_eq_iff_unquoted_eq (a b : Condition) (ha : ∀ i ∈ a.names, i.IsWord)
    (hb : ∀ i ∈ b.names, i.IsWord) : a.text = b.text ↔ a.unquoted = b.unquoted := by
  constructor
  · intro h
    exact (text_append_inj a b [] [] ha hb endsWord_nil endsWord_nil (by rw [h])).1
  · intro h
    rw [← text_unquoted a, h, text_unquoted b]

/-- Two conditions with a join below a negation, an empty name and different delimiters. -/
theorem text_eq_iff_unquoted_eq_nested :
    ∃ a b : Condition, a ≠ b ∧ (∀ i ∈ a.names, i.IsWord) ∧ (∀ i ∈ b.names, i.IsWord) ∧
      a.text = "NOT (a >=  OR NOT c <> d)" ∧ b.text = "NOT (a >=  OR NOT c <> d)" ∧
      a.unquoted = b.unquoted := by
  let a := negation (logical (comparison ⟨"a", true⟩ .greaterEqual ⟨"", false⟩) .or
    (negation (comparison ⟨"c", false⟩ .notEqual ⟨"d", true⟩)))
  let b := negation (logical (comparison ⟨"a", false⟩ .greaterEqual ⟨"", true⟩) .or
    (negation (comparison ⟨"c", false⟩ .notEqual ⟨"d", false⟩)))
  have ha : ∀ i ∈ a.names, i.IsWord := by decide
  have hb : ∀ i ∈ b.names, i.IsWord := by decide
  exact ⟨a, b, by decide, ha, hb, by decide, by decide,
    (text_eq_iff_unquoted_eq a b ha hb).mp (by decide)⟩

-- A name that is the word of a negation can be taken for one.
example :
    (logical (comparison ⟨"NOT", false⟩ .greaterThan ⟨"=", false⟩) .and
        (negation (comparison ⟨"a", false⟩ .equals ⟨"b", false⟩))).text =
      (logical (negation (comparison ⟨">", false⟩ .equals ⟨"AND", false⟩)) .not
        (comparison ⟨"a", false⟩ .equals ⟨"b", false⟩)).text := by
  decide

end Condition
end SelectFind
