import SelectFind.Proofs.Statement.Written

/-!
# The names of a statement

A statement names its table and, unless it selects every one, its columns. Where the statement is
read from a text, each name is spelled by a token of the text, and so it can be written.
-/

namespace SelectFind.Statement

/-- The names in a statement: the table and then the columns. -/
def names (statement : Statement) : List Identifier :=
  statement.table :: statement.columns.elim [] Columns.toList

/-- A name is that of the table or of a column. -/
theorem mem_names_iff (statement : Statement) (i : Identifier) :
    i ∈ statement.names ↔
      i = statement.table ∨ ∃ columns ∈ statement.columns, i ∈ columns.toList := by
  rw [names, List.mem_cons]
  cases statement.columns <;> simp

/-- The table is among the names. -/
theorem table_mem_names (statement : Statement) : statement.table ∈ statement.names :=
  List.mem_cons_self

/-- A column is among the names. -/
theorem mem_names_of_mem_columns (statement : Statement) (columns : Columns)
    (hc : columns ∈ statement.columns) (i : Identifier) (hi : i ∈ columns.toList) :
    i ∈ statement.names :=
  (statement.mem_names_iff i).mpr (.inr ⟨columns, hc, hi⟩)

/-- The names of a statement that can be written can be written. -/
theorem Writable.names (statement : Statement) (h : statement.Writable) :
    ∀ i ∈ statement.names, i.Writable := by
  intro i hi
  obtain rfl | ⟨columns, hc, hi⟩ := (statement.mem_names_iff i).mp hi
  · exact h.table
  · exact h.columns columns hc i hi

private theorem exists_mem_of_mem_names (tokens : List String) (statement : Statement)
    (h : StatementTokens NameToken CountToken tokens statement) (i : Identifier)
    (hi : i ∈ statement.names) : ∃ t ∈ tokens, NameToken t i := by
  obtain ⟨word, columns, source, table, offset, limit, rfl, _, hc, _, hn, _, _, _⟩ := h
  obtain rfl | ⟨cs, hcs, hi⟩ := (statement.mem_names_iff i).mp hi
  · exact ⟨table, by simp, hn⟩
  · obtain ⟨t, hm, ht⟩ := hc.exists_mem columns _ cs hcs i hi
    exact ⟨t, by simp [hm], ht⟩

/-- Each name of a statement that is read from a text is spelled by a token of the text. -/
theorem exists_nameSpelling_of_ofText (settings : Settings) (sql : String) (statement : Statement)
    (h : Statement.ofText settings sql = .ok statement) (i : Identifier)
    (hi : i ∈ statement.names) :
    ∃ tokens, tokenize sql = .ok tokens ∧ ∃ t ∈ tokens, NameSpelling t i := by
  obtain ⟨body, rest, ht, hb⟩ := statementTokens_of_ofText settings sql statement h
  obtain ⟨t, hm, hn⟩ := exists_mem_of_mem_names body statement hb i hi
  have hm := List.mem_append_left rest hm
  exact ⟨_, ht, t, hm, hn.nameSpelling t i (isToken_of_mem_tokenize sql _ ht t hm)⟩

end SelectFind.Statement
