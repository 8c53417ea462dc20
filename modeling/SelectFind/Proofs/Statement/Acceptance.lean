import SelectFind.Proofs.Statement.Ending

/-!
# Exactly the statements are accepted

A row of tokens that spells a statement is read as that statement, whatever is done with leftover
tokens. In the other direction a success leaves no token ahead, so what was passed is the whole row;
as the parser recognizes the grammar, the row spells the statement that it is read as.
-/

namespace SelectFind

/-- The clause is looked for behind the statement: neither it nor one that comes later is there. -/
inductive Statement.Admits (statement : Statement) : Clause → Prop
  | condition (ho : statement.offset = none) (hl : statement.limit = none) :
      Admits statement .condition
  | offset (ho : statement.offset = none) (hl : statement.limit = none) : Admits statement .offset
  | limit (hl : statement.limit = none) : Admits statement .limit

namespace Parser

variable {α β : Type}

/-! ### What is spelled is read -/

private theorem runFrom_otherColumns_ok (names : List String) (identifiers : List Identifier)
    (h : List.Forall₂ NameToken names identifiers) (position : Nat) (rest : List String)
    (hr : rest.head? ≠ some Token.separator) :
    otherColumns.runFrom ⟨position, (names.flatMap fun t ↦ [Token.separator, t]) ++ rest⟩ =
      (.ok identifiers,
        ⟨position + (names.flatMap fun t ↦ [Token.separator, t]).length, rest⟩) := by
  induction h generalizing position with
  | nil => exact runFrom_otherColumns_of_ne position rest hr
  | @cons t i names identifiers ht _ ih =>
    simp only [List.flatMap_cons, List.cons_append, List.nil_append, List.length_cons]
    rw [runFrom_otherColumns_separator, runFrom_bind_of_ok (runFrom_pass _ _ _),
      runFrom_bind_of_ok (runFrom_name_ok _ _ t _ i ht), runFrom_bind_of_ok (ih _), runFrom_pure]
    congr 2
    omega

private theorem runFrom_columns_ok (tokens : List String) (cs : Option Columns)
    (h : ColumnTokens NameToken tokens cs) (position : Nat) (rest : List String)
    (hr : rest.head? ≠ some Token.separator) :
    columns.runFrom ⟨position, tokens ++ rest⟩ = (.ok cs, ⟨position + tokens.length, rest⟩) := by
  cases h with
  | all => exact runFrom_columns_wildcard position rest
  | @names names cs h =>
    obtain ⟨first, others⟩ := cs
    cases h with
    | @cons t _ names _ ht h =>
      have hw : t ≠ Token.wildcard := by
        rintro rfl
        have := (Identifier.ofToken_eq_ok_iff _ _).mpr ht
        cases this
      rw [intersperse_separator, List.cons_append, runFrom_columns_of_ne position t _ hw,
        runFrom_bind_of_ok (runFrom_name_ok _ _ t _ first ht),
        runFrom_bind_of_ok (runFrom_otherColumns_ok names others h _ rest hr), runFrom_pure,
        List.length_cons, Nat.add_assoc, Nat.add_comm 1]

/-- A clause that is present is read, and one that is absent ends at a token that does not open
it. -/
theorem runFrom_countClause_ok (c : Clause) (tokens : List String) (n : Option UInt64)
    (h : ClauseTokens CountToken c tokens n) (position : Nat) (rest : List String)
    (hr : n = none → ∀ t ∈ rest.head?, c.opensWith t = false) :
    (countClause c).runFrom ⟨position, tokens ++ rest⟩ =
      (.ok n, ⟨position + tokens.length, rest⟩) := by
  cases h with
  | absent => exact runFrom_countClause_of_not c position rest (hr rfl)
  | @present word t n hw ht =>
    simp only [List.cons_append, List.nil_append]
    rw [runFrom_countClause_of_opens c position word _ hw, runFrom_bind_of_ok (runFrom_pass _ _ _),
      runFrom_bind_of_ok (runFrom_count_ok c _ t rest n ht), runFrom_pure]
    rfl

/-- A condition is in view behind the table only if the counts admit one. -/
theorem not_opensWith_condition (columns : Option Columns) (table : Identifier)
    (tokens : List String) (s : Statement) (h : CountTokens columns table tokens s)
    (rest : List String)
    (hr : s.Admits .condition → ∀ t ∈ rest.head?, Clause.condition.opensWith t = false) :
    ∀ t ∈ (tokens ++ rest).head?, Clause.condition.opensWith t = false := by
  obtain ⟨offset, limit, rfl, ho, hl, _, _, _⟩ := h
  obtain ⟨i, cs, condition, o, l⟩ := s
  intro t ht
  cases ho with
  | present hw _ =>
    obtain rfl := Option.some.inj ht
    exact Clause.opensWith_eq_false .offset .condition _ hw (by decide)
  | absent =>
    cases hl with
    | present hw _ =>
      obtain rfl := Option.some.inj ht
      exact Clause.opensWith_eq_false .limit .condition _ hw (by decide)
    | absent => exact hr (.condition rfl rfl) t ht

private theorem runFrom_counts_ok (columns : Option Columns) (table : Identifier)
    (tokens : List String) (s : Statement) (h : CountTokens columns table tokens s)
    (position : Nat) (rest : List String)
    (hr : ∀ t ∈ rest.head?, ∀ c, s.Admits c → c.opensWith t = false) :
    (counts columns table).runFrom ⟨position, tokens ++ rest⟩ =
      (.ok s, ⟨position + tokens.length, rest⟩) := by
  have hcond := not_opensWith_condition columns table tokens s h rest
    fun ha t ht ↦ hr t ht .condition ha
  obtain ⟨offset, limit, rfl, ho, hl, rfl, rfl, hn⟩ := h
  obtain ⟨i, cs, condition, o, l⟩ := s
  obtain rfl : condition = none := hn
  have hoffset (hnone : o = none) (t : String) (ht : t ∈ (limit ++ rest).head?) :
      Clause.offset.opensWith t = false := by
    cases hl with
    | absent => exact hr t ht .offset (.offset hnone rfl)
    | present hw _ =>
      obtain rfl := Option.some.inj ht
      exact Clause.opensWith_eq_false .limit .offset _ hw (by decide)
  have hlimit (hnone : l = none) (t : String) (ht : t ∈ rest.head?) :
      Clause.limit.opensWith t = false := hr t ht .limit (.limit hnone)
  rw [runFrom_counts_of_not cs i position _ hcond, List.append_assoc,
    runFrom_bind_of_ok (runFrom_countClause_ok .offset offset o ho position _ hoffset),
    runFrom_bind_of_ok (runFrom_countClause_ok .limit limit l hl _ rest hlimit), runFrom_pure,
    List.length_append, Nat.add_assoc]

/-- The tokens up to the table are passed, whatever follows it. -/
theorem runFrom_statement_upToTable (word : String) (columns : List String) (source table : String)
    (cs : Option Columns) (i : Identifier) (hs : Clause.select.opensWith word = true)
    (hc : ColumnTokens NameToken columns cs) (hf : Clause.source.opensWith source = true)
    (ht : NameToken table i) (position : Nat) (rest : List String) :
    statement.runFrom ⟨position, [word] ++ columns ++ [source, table] ++ rest⟩ =
      (counts cs i).runFrom
        ⟨position + ([word] ++ columns ++ [source, table]).length, rest⟩ := by
  have hcomma : (source :: table :: rest).head? ≠ some Token.separator := by
    intro he
    rw [Option.some.inj he, Clause.opensWith_separator] at hf
    cases hf
  have htokens : [word] ++ columns ++ [source, table] ++ rest =
      word :: (columns ++ source :: table :: rest) := by simp
  have hlength : position + ([word] ++ columns ++ [source, table]).length =
      position + 1 + columns.length + 1 + 1 := by
    simp only [List.length_append, List.length_cons, List.length_nil]
    omega
  unfold statement
  rw [htokens, hlength, runFrom_bind_of_ok (runFrom_clause_ok .select position word _ hs),
    runFrom_bind_of_ok (runFrom_columns_ok columns cs hc _ _ hcomma),
    runFrom_bind_of_ok (runFrom_clause_ok .source _ source _ hf),
    runFrom_bind_of_ok (runFrom_name_ok .tableName _ table _ i ht)]

/-- Tokens that spell a statement are read as it, up to a token that opens no admitted clause. -/
theorem runFrom_statement_ok (tokens : List String) (s : Statement)
    (h : StatementTokens NameToken CountToken tokens s) (position : Nat) (rest : List String)
    (hr : ∀ t ∈ rest.head?, ∀ c, s.Admits c → c.opensWith t = false) :
    statement.runFrom ⟨position, tokens ++ rest⟩ =
      (.ok s, ⟨position + tokens.length, rest⟩) := by
  obtain ⟨word, columns, source, table, offset, limit, rfl, hs, hc, hf, ht, ho, hl, hn⟩ := h
  have hcounts : CountTokens s.columns s.table (offset ++ limit) s :=
    ⟨offset, limit, rfl, ho, hl, rfl, rfl, hn⟩
  rw [List.append_assoc _ offset limit, List.append_assoc,
    runFrom_statement_upToTable word columns source table s.columns s.table hs hc hf ht,
    runFrom_counts_ok _ _ _ s hcounts _ rest hr, Nat.add_assoc, ← List.length_append]

/-- Tokens that spell a statement are selected as it, whatever is done with leftover tokens. -/
theorem runFrom_select_ok (leftover : Leftover) (tokens : List String) (statement : Statement)
    (h : StatementTokens NameToken CountToken tokens statement) (position : Nat) :
    ∃ endsAtTable, (select leftover).runFrom ⟨position, tokens⟩ =
      (.ok ⟨statement, endsAtTable, none⟩, ⟨position + tokens.length, []⟩) := by
  have hr := runFrom_statement_ok tokens statement h position [] (by simp)
  rw [List.append_nil] at hr
  rw [select_eq_statement_bind_ending, runFrom_bind_of_ok hr]
  exact ⟨_, rfl⟩

/-! ### A success leaves nothing ahead -/

/-- A success of the parser leaves no token ahead. -/
def Exhausts (p : Parser α) : Prop :=
  ∀ cursor a cursor', p.runFrom cursor = (.ok a, cursor') → cursor'.ahead = []

private theorem Exhausts.bind (p : Parser α) (f : α → Parser β) (hf : ∀ a, (f a).Exhausts) :
    (p >>= f).Exhausts := by
  intro cursor b cursor' h
  cases hp : p.runFrom cursor with
  | mk r reached =>
    cases r with
    | ok a =>
      rw [runFrom_bind_of_ok hp] at h
      exact hf a reached b cursor' h
    | error e =>
      rw [runFrom_bind_of_error hp] at h
      cases h

private theorem Exhausts.pure (p : Parser α) (g : α → β) (hp : p.Exhausts) :
    (p >>= fun a ↦ Pure.pure (g a)).Exhausts := by
  intro cursor b cursor' h
  cases hr : p.runFrom cursor with
  | mk r reached =>
    cases r with
    | ok a =>
      rw [runFrom_bind_of_ok hr, runFrom_pure] at h
      cases h
      exact hp cursor a _ hr
    | error e =>
      rw [runFrom_bind_of_error hr] at h
      cases h

private theorem exhausts_finish (leftover : Leftover) : (finish leftover).Exhausts := by
  rintro ⟨position, tokens⟩ a cursor' h
  cases tokens with
  | nil => cases h; rfl
  | cons t tokens =>
    cases leftover with
    | reject => cases h
    | ignore => cases h; rfl

/-- Whatever is done with leftover tokens, a statement that is read leaves none ahead. -/
theorem exhausts_select (leftover : Leftover) : (select leftover).Exhausts := by
  rw [select_eq_statement_bind_ending]
  apply Exhausts.bind
  intro statement
  apply Exhausts.bind
  intro tokens
  exact Exhausts.pure _ _ (exhausts_finish leftover)

end Parser

namespace Statement

/-- The statement of a row of tokens is what the parser reads from its start. -/
theorem ofTokens_eq (leftover : Leftover) (tokens : List String) :
    Statement.ofTokens leftover tokens =
      ((Parser.select leftover).runFrom ⟨0, tokens⟩).1.map Selection.statement := rfl

/-- Tokens that spell a statement are read as it. -/
theorem ofTokens_of_statementTokens (leftover : Leftover) (tokens : List String)
    (statement : Statement) (h : StatementTokens NameToken CountToken tokens statement) :
    Statement.ofTokens leftover tokens = .ok statement := by
  obtain ⟨endsAtTable, hr⟩ := Parser.runFrom_select_ok leftover tokens statement h 0
  rw [ofTokens_eq, hr]
  rfl

/-- A row of which no token may be left over is a statement. -/
theorem statementTokens_of_selectionTokens (tokens : List String) (selection : Selection)
    (h : SelectionTokens .reject tokens selection) :
    StatementTokens NameToken CountToken tokens selection.statement := by
  obtain ⟨body, rest, rfl, hb, hr⟩ := h
  rw [hr rfl, List.append_nil]
  exact hb

/-- Tokens that are read as a statement spell it, with what may be left over behind it. -/
theorem selectionTokens_of_ofTokens (leftover : Leftover) (tokens : List String)
    (statement : Statement) (h : Statement.ofTokens leftover tokens = .ok statement) :
    ∃ selection, selection.statement = statement ∧ SelectionTokens leftover tokens selection := by
  obtain ⟨passed, rest, r, rfl, ho, hr⟩ :=
    (Parser.recognizes_select leftover).recognizesAt 0 tokens
  rw [ofTokens_eq, hr rest rfl] at h
  cases r with
  | error e => cases h
  | ok selection =>
    obtain rfl : rest = [] := Parser.exhausts_select leftover _ _ _ (hr rest rfl)
    rw [List.append_nil]
    exact ⟨selection, Except.ok.inj h, ho⟩

/-- Tokens that are read as a statement, and of which none may be left over, spell it. -/
theorem statementTokens_of_ofTokens (tokens : List String) (statement : Statement)
    (h : Statement.ofTokens .reject tokens = .ok statement) :
    StatementTokens NameToken CountToken tokens statement := by
  obtain ⟨selection, rfl, hs⟩ := selectionTokens_of_ofTokens .reject tokens statement h
  exact statementTokens_of_selectionTokens tokens selection hs

/-- Exactly the rows of tokens that spell a statement are accepted, and each is read as the
statement that it spells. -/
theorem ofTokens_reject_eq_ok_iff (tokens : List String) (statement : Statement) :
    Statement.ofTokens .reject tokens = .ok statement ↔
      StatementTokens NameToken CountToken tokens statement :=
  ⟨statementTokens_of_ofTokens tokens statement,
    ofTokens_of_statementTokens .reject tokens statement⟩

end Statement
end SelectFind
