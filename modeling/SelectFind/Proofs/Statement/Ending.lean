import SelectFind.Proofs.Statement.Recognition

/-!
# A statement and what follows it

Reading a selection has two parts. The first passes the tokens of a statement and asks nothing about
leftover tokens. The second stands where the statement ends: with no token ahead it is done, and
else the tokens ahead are refused or ignored. The first part recognizes the statements, so the whole
recognizes the statements and, when leftover tokens are ignored, the rows that start with one.
-/

namespace SelectFind

/-- Tokens spell a statement, and further tokens follow it only if these are ignored. -/
def SelectionTokens (leftover : Leftover) (tokens : List String) (selection : Selection) : Prop :=
  ∃ body rest, tokens = body ++ rest ∧
    StatementTokens NameToken CountToken body selection.statement ∧
    (leftover = .reject → rest = [])

namespace Parser

/-- Passes the clauses behind the table, but no token that is left over. -/
def counts (columns : Option Columns) (table : Identifier) : Parser Statement := do
  if ← atClause .condition then
    fail .condition
  else
    let offset ← countClause .offset
    let limit ← countClause .limit
    return ⟨table, columns, none, offset, limit⟩

/-- Passes a statement, but no token that is left over. -/
def statement : Parser Statement := do
  clause .select
  let columns ← columns
  clause .source
  let table ← name .tableName
  counts columns table

/-- Ends the selection of a statement, which ends with its table if it has no counts and no token
follows. -/
def ending (leftover : Leftover) (statement : Statement) : Parser Selection := do
  let endsAtTable := (← ahead).isEmpty && statement.offset.isNone && statement.limit.isNone
  return ⟨statement, endsAtTable, ← finish leftover⟩

/-! ### The clauses behind the table -/

/-- Behind the table a condition is refused. -/
theorem runFrom_counts_condition (columns : Option Columns) (table : Identifier) (position : Nat)
    (t : String) (tokens : List String) (h : Clause.condition.opensWith t = true) :
    (counts columns table).runFrom ⟨position, t :: tokens⟩ =
      (.error ⟨position, .condition⟩, ⟨position, t :: tokens⟩) := by
  change (if Clause.condition.opensWith t then _ else _ : Parser Statement).runFrom _ = _
  rw [if_pos h]
  rfl

/-- Behind the table, unless a condition is in view, the clauses are read. -/
theorem runFrom_counts_of_not (columns : Option Columns) (table : Identifier) (position : Nat)
    (tokens : List String) (h : ∀ t ∈ tokens.head?, Clause.condition.opensWith t = false) :
    (counts columns table).runFrom ⟨position, tokens⟩ =
      (countClause .offset >>= fun offset ↦ countClause .limit >>= fun limit ↦
        pure ⟨table, columns, none, offset, limit⟩ : Parser Statement).runFrom
        ⟨position, tokens⟩ := by
  cases tokens with
  | nil => rfl
  | cons t tokens =>
    change (if Clause.condition.opensWith t then _ else _ : Parser Statement).runFrom _ = _
    rw [if_neg (by simp [h t rfl])]

/-- Clauses with their counts spell a statement with the given columns and table. -/
def CountTokens (columns : Option Columns) (table : Identifier) (tokens : List String)
    (statement : Statement) : Prop :=
  ∃ offset limit, tokens = offset ++ limit ∧
    ClauseTokens CountToken .offset offset statement.offset ∧
    ClauseTokens CountToken .limit limit statement.limit ∧
    statement.table = table ∧ statement.columns = columns ∧ statement.condition = none

private theorem recognizes_counts (columns : Option Columns) (table : Identifier) :
    (counts columns table).Recognizes (CountTokens columns table) := by
  have hnone : CountTokens columns table [] ⟨table, columns, none, none, none⟩ :=
    ⟨[], [], rfl, .absent, .absent, rfl, rfl, rfl⟩
  refine ⟨⟨[], _, hnone⟩, ?_⟩
  intro position tokens
  by_cases hc : ∃ t ∈ tokens.head?, Clause.condition.opensWith t = true
  · obtain ⟨t, ht, hc⟩ := hc
    obtain ⟨tokens, rfl⟩ := List.head?_eq_some_iff.mp ht
    apply recognizesAt_of_fault _ _ position t tokens .condition ⟨[], _, hnone⟩
    · rintro ⟨expected, h⟩
      cases h
    · intro tokens'
      exact runFrom_counts_condition columns table position t tokens' hc
  · have hc : ∀ t ∈ tokens.head?, Clause.condition.opensWith t = false := by simpa using hc
    have hp : (countClause .offset >>= fun offset ↦ countClause .limit >>= fun limit ↦
        pure ⟨table, columns, none, offset, limit⟩ : Parser Statement).Recognizes
        (CountTokens columns table) := by
      apply (recognizes_countClause .offset).bind
      intro first offset ho
      apply (recognizes_countClause .limit).bind
      intro second limit hl
      apply recognizes_pure
      exact ⟨first, second, by simp, ho, hl, rfl, rfl, rfl⟩
    apply (hp.recognizesAt position tokens).of_head
    intro tokens' hh
    exact runFrom_counts_of_not columns table position tokens' (hh ▸ hc)

/-- The parser of a statement recognizes the statements. -/
theorem recognizes_statement :
    statement.Recognizes (StatementTokens NameToken CountToken) := by
  apply (recognizes_clause .select).bind
  rintro _ _ ⟨select, rfl, hs⟩
  apply recognizes_columns.bind
  intro columns cs hc
  apply (recognizes_clause .source).bind
  rintro _ _ ⟨source, rfl, hf⟩
  apply (recognizes_name .tableName).bind
  rintro _ i ⟨table, rfl, ht⟩
  apply (recognizes_counts cs i).mono
  rintro _ statement ⟨offset, limit, rfl, ho, hl, hi, hcs, hn⟩
  exact ⟨select, columns, source, table, offset, limit, by simp, hs, hcs ▸ hc, hf, hi ▸ ht, ho, hl,
    hn⟩

/-! ### The two parts of a selection -/

private theorem bind_bind {α β γ : Type} (p : Parser α) (f : α → Parser β) (g : β → Parser γ) :
    (p >>= f) >>= g = p >>= fun a ↦ f a >>= g := by
  funext cursor
  simp only [bind]
  cases p cursor with
  | mk r reached => cases r <;> rfl

private theorem runFrom_bind_of_eq {α β : Type} {p q : Parser α} {cursor : Cursor}
    (h : p.runFrom cursor = q.runFrom cursor) (f : α → Parser β) :
    (p >>= f).runFrom cursor = (q >>= f).runFrom cursor := by
  unfold runFrom at h ⊢
  simp only [bind, h]

private theorem runFrom_bind_congr {α β : Type} (p : Parser α) (f g : α → Parser β)
    (cursor : Cursor) (h : ∀ a reached, p.runFrom cursor = (.ok a, reached) →
      (f a).runFrom reached = (g a).runFrom reached) :
    (p >>= f).runFrom cursor = (p >>= g).runFrom cursor := by
  cases hp : p.runFrom cursor with
  | mk r reached =>
    cases r with
    | error e => rw [runFrom_bind_of_error hp, runFrom_bind_of_error hp]
    | ok a => rw [runFrom_bind_of_ok hp, runFrom_bind_of_ok hp, h a reached hp]

private theorem eq_of_runFrom_countClause_none (c : Clause) (cursor reached : Cursor)
    (h : (countClause c).runFrom cursor = (.ok none, reached)) : reached = cursor := by
  obtain ⟨position, tokens⟩ := cursor
  by_cases ho : ∃ t ∈ tokens.head?, c.opensWith t = true
  · obtain ⟨t, ht, ho⟩ := ho
    obtain ⟨tokens, rfl⟩ := List.head?_eq_some_iff.mp ht
    rw [runFrom_countClause_of_opens c position t tokens ho,
      runFrom_bind_of_ok (runFrom_pass position t tokens)] at h
    cases hc : (count c).runFrom ⟨position + 1, tokens⟩ with
    | mk r place =>
      cases r with
      | error e => rw [runFrom_bind_of_error hc] at h; cases h
      | ok n => rw [runFrom_bind_of_ok hc, runFrom_pure] at h; cases h
  · rw [runFrom_countClause_of_not c position tokens (by simpa using ho)] at h
    cases h
    rfl

private theorem runFrom_ending (leftover : Leftover) (statement : Statement) (position : Nat)
    (tokens : List String) :
    (ending leftover statement).runFrom ⟨position, tokens⟩ =
      (finish leftover >>= fun ignored ↦
        pure ⟨statement, tokens.isEmpty && statement.offset.isNone && statement.limit.isNone,
          ignored⟩ : Parser Selection).runFrom ⟨position, tokens⟩ := rfl

/-- Where no token is ahead, a selection has ended. -/
theorem runFrom_ending_nil (leftover : Leftover) (statement : Statement) (position : Nat) :
    (ending leftover statement).runFrom ⟨position, []⟩ =
      (.ok ⟨statement, statement.offset.isNone && statement.limit.isNone, none⟩, ⟨position, []⟩) :=
  rfl

/-- Leftover tokens are refused at the first of them. -/
theorem runFrom_ending_reject (statement : Statement) (position : Nat) (t : String)
    (tokens : List String) :
    (ending .reject statement).runFrom ⟨position, t :: tokens⟩ =
      (.error ⟨position, .leftover t⟩, ⟨position, t :: tokens⟩) := rfl

/-- Leftover tokens are ignored up to the last. -/
theorem runFrom_ending_ignore (statement : Statement) (position : Nat) (t : String)
    (tokens : List String) :
    (ending .ignore statement).runFrom ⟨position, t :: tokens⟩ =
      (.ok ⟨statement, false, some ⟨(t :: tokens).length, t, position⟩⟩,
        ⟨position + (t :: tokens).length, []⟩) := rfl

-- Tokens or counts behind the table make the flag false.
private theorem runFrom_ending_of_not (leftover : Leftover) (statement : Statement)
    (cursor : Cursor)
    (h : ¬(cursor.ahead = [] ∧ statement.offset = none ∧ statement.limit = none)) :
    (ending leftover statement).runFrom cursor =
      (finish leftover >>= fun ignored ↦
        pure ⟨statement, false, ignored⟩ : Parser Selection).runFrom cursor := by
  have he : (cursor.ahead.isEmpty && statement.offset.isNone && statement.limit.isNone) =
      false := by
    rw [Bool.eq_false_iff]
    simpa [and_assoc] using h
  rw [← he]
  rfl

private theorem clauses_eq_counts_bind_ending (leftover : Leftover) (columns : Option Columns)
    (table : Identifier) :
    clauses leftover columns table = counts columns table >>= ending leftover := by
  funext ⟨position, tokens⟩
  cases tokens with
  | nil => rfl
  | cons t tokens =>
    change (if Clause.condition.opensWith t then _ else _ : Parser Selection).runFrom _ =
      (counts columns table >>= ending leftover).runFrom ⟨position, t :: tokens⟩
    cases hc : Clause.condition.opensWith t with
    | true =>
      rw [runFrom_bind_of_error (runFrom_counts_condition columns table position t tokens hc)]
      rfl
    | false =>
      have hcounts := runFrom_counts_of_not columns table position (t :: tokens) (by simpa using hc)
      rw [if_neg (by simp), runFrom_bind_of_eq hcounts, bind_bind]
      apply runFrom_bind_congr
      intro offset place hoffset
      rw [bind_bind]
      apply runFrom_bind_congr
      intro limit reached hlimit
      -- If both clauses are absent, the token behind the table is still ahead.
      refine (runFrom_ending_of_not leftover ⟨table, columns, none, offset, limit⟩ reached ?_).symm
      rintro ⟨ha, rfl, rfl⟩
      rw [eq_of_runFrom_countClause_none _ _ _ hlimit,
        eq_of_runFrom_countClause_none _ _ _ hoffset] at ha
      cases ha

/-- A selection is a statement and its end. -/
theorem select_eq_statement_bind_ending (leftover : Leftover) :
    select leftover = statement >>= ending leftover := by
  simp only [select, statement, bind_bind, clauses_eq_counts_bind_ending]

private theorem recognizes_ending (leftover : Leftover) (statement : Statement) :
    (ending leftover statement).Recognizes fun tokens selection ↦
      selection.statement = statement ∧ (leftover = .reject → tokens = []) := by
  have hfinish (endsAtTable : Bool) :
      (finish leftover >>= fun ignored ↦
        pure ⟨statement, endsAtTable, ignored⟩ : Parser Selection).Recognizes
        fun tokens selection ↦
          selection.statement = statement ∧ (leftover = .reject → tokens = []) := by
    apply (recognizes_finish leftover).bind
    intro first ignored hr
    exact recognizes_pure _ _ ⟨rfl, by simpa using hr⟩
  refine ⟨(hfinish true).inhabited, ?_⟩
  intro position tokens
  apply ((hfinish _).recognizesAt position tokens).of_head
  intro tokens' hh
  have he : tokens'.isEmpty = tokens.isEmpty := by
    rw [Bool.eq_iff_iff, List.isEmpty_iff, List.isEmpty_iff, ← List.head?_eq_none_iff, hh,
      List.head?_eq_none_iff]
  rw [runFrom_ending, he]

/-- The parser of statements recognizes them, each with what may be left over behind it. -/
theorem recognizes_select (leftover : Leftover) :
    (select leftover).Recognizes (SelectionTokens leftover) := by
  rw [select_eq_statement_bind_ending]
  apply recognizes_statement.bind
  intro body statement hb
  apply (recognizes_ending leftover statement).mono
  rintro rest selection ⟨rfl, hr⟩
  exact ⟨body, rest, rfl, hb, hr⟩

end Parser
end SelectFind
