import SelectFind.Proofs.Statement.Grammar

/-!
# The parsers recognize the grammar

Behind single tokens, every choice of the parsers is made by the token in view: a comma for another
column, an asterisk for all columns, a reserved word for a clause. So each parser recognizes its
part of the grammar.
-/

namespace SelectFind

/-- Names behind the first, each with a comma in front. -/
def OtherColumnTokens (tokens : List String) (identifiers : List Identifier) : Prop :=
  ∃ names, List.Forall₂ NameToken names identifiers ∧
    tokens = names.flatMap fun t ↦ [Token.separator, t]

namespace Parser

/-! ### Columns -/

/-- Behind a comma a name is passed, and then the columns go on. -/
theorem runFrom_otherColumns_separator (position : Nat) (tokens : List String) :
    otherColumns.runFrom ⟨position, Token.separator :: tokens⟩ =
      (pass >>= fun _ ↦ name .columnName >>= fun identifier ↦ otherColumns >>= fun identifiers ↦
        pure (identifier :: identifiers)).runFrom ⟨position, Token.separator :: tokens⟩ := by
  cases tokens with
  | nil => rfl
  | cons t tokens =>
    change _ = (name .columnName >>= fun identifier ↦ otherColumns >>= fun identifiers ↦
      pure (identifier :: identifiers)).runFrom ⟨position + 1, t :: tokens⟩
    cases hi : Identifier.ofToken t with
    | error fault =>
      rw [runFrom_bind_of_error (runFrom_name_error _ _ t tokens fault hi)]
      simp [runFrom, otherColumns, otherColumns.namesFrom, hi]
    | ok i =>
      have hn := (Identifier.ofToken_eq_ok_iff t i).mp hi
      have hp : position + 1 + 1 = position + 2 := rfl
      rw [runFrom_bind_of_ok (runFrom_name_ok _ _ t tokens i hn)]
      simp only [runFrom, otherColumns, otherColumns.namesFrom, hi, bind, beq_self_eq_true, if_true]
      rw [hp]
      cases otherColumns.namesFrom (position + 2) tokens with
      | mk r cursor => cases r <;> rfl

/-- Without a comma ahead the columns have ended. -/
theorem runFrom_otherColumns_of_ne (position : Nat) (tokens : List String)
    (h : tokens.head? ≠ some Token.separator) :
    otherColumns.runFrom ⟨position, tokens⟩ = (.ok [], ⟨position, tokens⟩) := by
  cases tokens with
  | nil => rfl
  | cons t tokens =>
    have ht : (t == Token.separator) = false := by simpa using h
    cases tokens with
    | nil => simp [runFrom, otherColumns, otherColumns.namesFrom, ht]
    | cons u tokens => simp [runFrom, otherColumns, otherColumns.namesFrom, ht]

private theorem otherColumnTokens_nil : OtherColumnTokens [] [] := ⟨[], .nil, rfl⟩

private theorem otherColumnTokens_cons (t : String) (i : Identifier) (tokens : List String)
    (identifiers : List Identifier) (ht : NameToken t i)
    (h : OtherColumnTokens tokens identifiers) :
    OtherColumnTokens (Token.separator :: t :: tokens) (i :: identifiers) := by
  obtain ⟨names, hn, rfl⟩ := h
  exact ⟨t :: names, .cons ht hn, rfl⟩

private theorem recognizes_otherColumns : otherColumns.Recognizes OtherColumnTokens := by
  refine ⟨⟨[], [], otherColumnTokens_nil⟩, ?_⟩
  intro position tokens
  -- Each column passes two tokens, so the induction is on the number of tokens ahead.
  induction hn : tokens.length using Nat.strongRecOn generalizing position tokens with
  | ind n ih =>
    by_cases hs : tokens.head? = some Token.separator
    · obtain ⟨tokens, rfl⟩ := List.head?_eq_some_iff.mp hs
      apply RecognizesAt.of_cons (runFrom_otherColumns_separator position)
      apply (recognizesAt_pass (fun t _ ↦ t = Token.separator) position _ tokens rfl).bind
      · rintro first _ ⟨t, rfl, rfl⟩
        exact ⟨_, _, otherColumnTokens_cons _ _ _ _ (.quoted .double "") otherColumnTokens_nil⟩
      · rintro first rest _ hrest ⟨t, rfl, rfl⟩
        obtain rfl : tokens = rest := (List.cons.inj hrest).2
        apply ((recognizes_name _).recognizesAt _ tokens).bind
        · rintro first i ⟨t, rfl, ht⟩
          exact ⟨_, _, otherColumnTokens_cons t i _ _ ht otherColumnTokens_nil⟩
        · rintro first rest i rfl ⟨t, rfl, ht⟩
          have hlt : rest.length < n := by
            simp only [← hn, List.length_cons, List.length_append, List.length_nil]
            omega
          apply (ih rest.length hlt _ rest rfl).bind
          · intro first is h
            exact ⟨[], _, otherColumnTokens_cons t i _ is ht (by simpa using h)⟩
          · intro first rest is _ h
            exact (recognizes_pure _ _ (otherColumnTokens_cons t i _ is ht
              (by simpa using h))).recognizesAt _ rest
    · have he := (recognizes_pure [] _ otherColumnTokens_nil).recognizesAt position tokens
      apply he.of_head
      intro tokens' hh
      rw [runFrom_otherColumns_of_ne position tokens' (hh ▸ hs)]
      rfl

private theorem columnTokens_cons (t : String) (i : Identifier) (tokens : List String)
    (identifiers : List Identifier) (ht : NameToken t i)
    (h : OtherColumnTokens tokens identifiers) :
    ColumnTokens NameToken (t :: tokens) (some ⟨i, identifiers⟩) := by
  obtain ⟨names, hn, rfl⟩ := h
  rw [← intersperse_separator]
  exact .names (.cons ht hn)

/-- An asterisk is passed and stands for all columns. -/
theorem runFrom_columns_wildcard (position : Nat) (tokens : List String) :
    columns.runFrom ⟨position, Token.wildcard :: tokens⟩ = (.ok none, ⟨position + 1, tokens⟩) := rfl

/-- Any other token must be the first of the names. -/
theorem runFrom_columns_of_ne (position : Nat) (t : String) (tokens : List String)
    (h : t ≠ Token.wildcard) :
    columns.runFrom ⟨position, t :: tokens⟩ =
      (name .columnName >>= fun first ↦ otherColumns >>= fun others ↦
        pure (some ⟨first, others⟩)).runFrom ⟨position, t :: tokens⟩ := by
  change (if t == Token.wildcard then _ else _ : Parser (Option Columns)).runFrom _ = _
  rw [if_neg (by simpa using h)]

/-- The parser of the columns recognizes them. -/
theorem recognizes_columns : columns.Recognizes (ColumnTokens NameToken) := by
  have hi : ∃ tokens columns, ColumnTokens NameToken tokens columns := ⟨_, _, .all⟩
  refine ⟨hi, ?_⟩
  intro position tokens
  cases tokens with
  | nil => exact recognizesAt_of_ended _ _ position .columnList hi rfl
  | cons t tokens =>
    by_cases ht : t = Token.wildcard
    · subst ht
      exact ⟨[Token.wildcard], tokens, .ok none, rfl, .all, fun _ _ ↦ rfl⟩
    · apply RecognizesAt.of_cons fun tokens' ↦ runFrom_columns_of_ne position t tokens' ht
      apply Recognizes.recognizesAt
      apply (recognizes_name _).bind
      rintro first i ⟨t, rfl, ht⟩
      apply recognizes_otherColumns.bind
      intro first is h
      exact recognizes_pure _ _ (columnTokens_cons t i _ is ht (by simpa using h))

/-! ### Clauses -/

/-- A clause is read if its word is in view. -/
theorem runFrom_countClause_of_opens (c : Clause) (position : Nat) (t : String)
    (tokens : List String) (h : c.opensWith t = true) :
    (countClause c).runFrom ⟨position, t :: tokens⟩ =
      (pass >>= fun _ ↦ count c >>= fun n ↦ pure (some n)).runFrom ⟨position, t :: tokens⟩ := by
  change (if c.opensWith t then _ else _ : Parser (Option UInt64)).runFrom _ = _
  rw [if_pos h]

/-- A clause is absent if its word is not in view. -/
theorem runFrom_countClause_of_not (c : Clause) (position : Nat) (tokens : List String)
    (h : ∀ t ∈ tokens.head?, c.opensWith t = false) :
    (countClause c).runFrom ⟨position, tokens⟩ = (.ok none, ⟨position, tokens⟩) := by
  cases tokens with
  | nil => rfl
  | cons t tokens =>
    change (if c.opensWith t then _ else _ : Parser (Option UInt64)).runFrom _ = _
    rw [if_neg (by simp [h t rfl])]
    rfl

/-- The parser of a clause with a count recognizes the clause, which may be absent. -/
theorem recognizes_countClause (c : Clause) :
    (countClause c).Recognizes (ClauseTokens CountToken c) := by
  have habsent : ClauseTokens CountToken c [] none := .absent
  refine ⟨⟨[], none, habsent⟩, ?_⟩
  intro position tokens
  by_cases ho : ∃ t ∈ tokens.head?, c.opensWith t = true
  · obtain ⟨t, ht, ho⟩ := ho
    obtain ⟨tokens, rfl⟩ := List.head?_eq_some_iff.mp ht
    apply RecognizesAt.of_cons fun tokens' ↦ runFrom_countClause_of_opens c position t tokens' ho
    apply (recognizesAt_pass (fun t _ ↦ c.opensWith t = true) position t tokens ho).bind
    · rintro first _ ⟨t, rfl, ho⟩
      exact ⟨["0"], _, .present ho countToken_zero⟩
    · rintro first rest _ _ ⟨t, rfl, ho⟩
      apply Recognizes.recognizesAt
      apply (recognizes_count c).bind
      rintro first n ⟨u, rfl, hn⟩
      exact recognizes_pure _ _ (.present ho hn)
  · have ho : ∀ t ∈ tokens.head?, c.opensWith t = false := by simpa using ho
    apply ((recognizes_pure none _ habsent).recognizesAt position tokens).of_head
    intro tokens' hh
    rw [runFrom_countClause_of_not c position tokens' (hh ▸ ho)]
    rfl

/-- Tokens behind the clauses are passed only if they are ignored. -/
theorem recognizes_finish (leftover : Leftover) :
    (finish leftover).Recognizes fun tokens _ ↦ leftover = .reject → tokens = [] := by
  have hi : ∃ (tokens : List String) (_ : Option Ignored), leftover = .reject → tokens = [] :=
    ⟨[], none, fun _ ↦ rfl⟩
  refine ⟨hi, ?_⟩
  intro position tokens
  cases tokens with
  | nil =>
    refine ⟨[], [], .ok none, rfl, fun _ ↦ rfl, ?_⟩
    intro rest' hh
    rw [List.head?_eq_none_iff.mp hh]
    rfl
  | cons t tokens =>
    cases leftover with
    | reject =>
      apply recognizesAt_of_fault _ _ position t tokens (.leftover t) hi
      · rintro ⟨expected, h⟩
        cases h
      · intro tokens'
        rfl
    | ignore =>
      -- All tokens are passed, so that no token is in view and nothing can follow.
      refine ⟨t :: tokens, [], .ok (some ⟨(t :: tokens).length, t, position⟩),
        (List.append_nil _).symm, ?_, ?_⟩
      · intro h
        cases h
      · intro rest' hh
        rw [List.head?_eq_none_iff.mp hh, List.append_nil]
        rfl

end Parser
end SelectFind
