import SelectFind.Proofs.Statement.Acceptance

/-!
# What stops a statement

A parser fails at the token in view: none is ahead and the tokens have ended, or the token there is
refused with a fault that quotes no other token. Tokens that are left over stop no statement; they
are a matter of its end. So a selection either stops inside a statement, in the same way whatever is
done with leftover tokens, or it passes a whole statement and ends there.
-/

namespace SelectFind

/-- The fault stops the reading of words and names at the tokens ahead: they have ended, or the
first of them is not what is required there. -/
inductive Fault.StopsName : Fault → List String → Prop
  | ended (expected : Expected) : StopsName (.ended expected) []
  | mismatch (expected : Expected) (t : String) (tokens : List String) :
      StopsName (.mismatch expected t) (t :: tokens)
  | name (fault : NameFault) (t : String) (tokens : List String)
      (h : Identifier.ofToken t = .error fault) : StopsName (.name t fault) (t :: tokens)

/-- The fault stops a statement at the tokens ahead: they have ended, or the first of them is
refused. -/
inductive Fault.Stops : Fault → List String → Prop
  | ofName {fault : Fault} {ahead : List String} (h : fault.StopsName ahead) : Stops fault ahead
  | integer (t : String) (tokens : List String) : Stops (.integer t) (t :: tokens)
  | negative (c : Clause) (value : Int) (t : String) (tokens : List String) :
      Stops (.negative c value) (t :: tokens)
  | condition (t : String) (tokens : List String) : Stops .condition (t :: tokens)

/-- Leftover tokens stop no statement. -/
theorem Fault.Stops.ne_leftover (fault : Fault) (ahead : List String) (h : fault.Stops ahead)
    (found : String) : fault ≠ .leftover found := by
  rintro rfl
  cases h with
  | ofName h => cases h

namespace Parser

variable {α β : Type}

/-! ### Failures of a row of parsers -/

/-- Every failure of the parser stops, in one of the given ways, at the tokens that it leaves
ahead. -/
def FailsWith (stops : Fault → List String → Prop) (p : Parser α) : Prop :=
  ∀ cursor e cursor', p.runFrom cursor = (.error e, cursor') → stops e.fault cursor'.ahead

private theorem runFrom_bind_eq_error {p : Parser α} {f : α → Parser β} {cursor cursor' : Cursor}
    {e : ParseError} (h : (p >>= f).runFrom cursor = (.error e, cursor')) :
    p.runFrom cursor = (.error e, cursor') ∨
      ∃ a reached, p.runFrom cursor = (.ok a, reached) ∧
        (f a).runFrom reached = (.error e, cursor') := by
  cases hp : p.runFrom cursor with
  | mk r reached =>
    cases r with
    | error e' =>
      rw [runFrom_bind_of_error hp] at h
      cases h
      exact .inl rfl
    | ok a =>
      rw [runFrom_bind_of_ok hp] at h
      exact .inr ⟨a, reached, rfl, h⟩

section

variable {stops : Fault → List String → Prop}

private theorem FailsWith.bind {p : Parser α} {f : α → Parser β} (hp : p.FailsWith stops)
    (hf : ∀ a, (f a).FailsWith stops) : (p >>= f).FailsWith stops := by
  intro cursor e cursor' h
  obtain h | ⟨a, reached, _, h⟩ := runFrom_bind_eq_error h
  · exact hp cursor e cursor' h
  · exact hf a reached e cursor' h

private theorem failsWith_pure (a : α) : (pure a : Parser α).FailsWith stops := by
  intro cursor e cursor' h
  rw [runFrom_pure] at h
  cases h

/-! ### Single tokens -/

/-- A parser of one token fails where it stands, at the end of the tokens or with what it refuses of
the token ahead. -/
theorem runFrom_token_eq_error (expected : Expected) (read : String → Except Fault α)
    (position : Nat) (tokens : List String) (e : ParseError) (reached : Cursor)
    (h : (token expected read).runFrom ⟨position, tokens⟩ = (.error e, reached)) :
    reached = ⟨position, tokens⟩ ∧
      (tokens = [] ∧ e = ⟨position, .ended expected⟩ ∨
        ∃ t rest fault, tokens = t :: rest ∧ read t = .error fault ∧ e = ⟨position, fault⟩) := by
  cases tokens with
  | nil =>
    rw [runFrom_token_nil] at h
    cases h
    exact ⟨rfl, .inl ⟨rfl, rfl⟩⟩
  | cons t rest =>
    cases ht : read t with
    | ok a =>
      rw [runFrom_token_ok expected read position t rest a ht] at h
      cases h
    | error fault =>
      rw [runFrom_token_error expected read position t rest fault ht] at h
      cases h
      exact ⟨rfl, .inr ⟨t, rest, fault, rfl, ht, rfl⟩⟩

private theorem failsWith_token (expected : Expected) (read : String → Except Fault α)
    (hend : stops (.ended expected) [])
    (h : ∀ t fault tokens, read t = .error fault → stops fault (t :: tokens)) :
    (token expected read).FailsWith stops := by
  rintro ⟨position, tokens⟩ e reached hr
  obtain ⟨rfl, ⟨rfl, rfl⟩ | ⟨t, rest, fault, rfl, ht, rfl⟩⟩ :=
    runFrom_token_eq_error expected read position tokens e reached hr
  · exact hend
  · exact h t fault rest ht

end

/-- How a parser of a token that it must know fails. -/
theorem failsWith_accept (expected : Expected) (read? : String → Option α) :
    (accept expected read?).FailsWith Fault.StopsName := by
  refine failsWith_token _ _ (.ended expected) ?_
  intro t fault tokens h
  cases hr : read? t with
  | some a => simp [hr] at h
  | none =>
    obtain rfl : Fault.mismatch expected t = fault := by simpa [hr] using h
    exact .mismatch expected t tokens

private theorem failsWith_name (expected : Expected) :
    (name expected).FailsWith Fault.StopsName := by
  refine failsWith_token _ _ (.ended expected) ?_
  intro t fault tokens h
  cases hi : Identifier.ofToken t with
  | ok i => simp [hi, Except.mapError] at h
  | error nameFault =>
    obtain rfl : Fault.name t nameFault = fault := by simpa [hi, Except.mapError] using h
    exact .name nameFault t tokens hi

/-- What is refused of a token that is no count. -/
theorem countOf_eq_error (c : Clause) (t : String) (fault : Fault)
    (h : countOf c t = .error fault) : fault = .integer t ∨ ∃ value, fault = .negative c value := by
  unfold countOf at h
  split at h
  · cases h
    exact .inl rfl
  · cases h
    exact .inr ⟨_, rfl⟩
  · cases h

private theorem failsWith_count (c : Clause) : (count c).FailsWith Fault.Stops := by
  refine failsWith_token _ _ (.ofName (.ended .integer)) ?_
  intro t fault tokens h
  obtain rfl | ⟨value, rfl⟩ := countOf_eq_error c t fault h
  · exact .integer t tokens
  · exact .negative c value t tokens

/-! ### Parts of a statement -/

private theorem failsWith_otherColumns : otherColumns.FailsWith Fault.StopsName := by
  rintro ⟨position, tokens⟩ e cursor' h
  change otherColumns.namesFrom position tokens = _ at h
  fun_induction otherColumns.namesFrom position tokens with
  | case1 => cases h
  | case2 =>
    cases h
    exact .ended .columnName
  | case3 => cases h
  | case4 => cases h
  | case5 _ _ _ _ _ _ _ _ _ hrest ih =>
    cases h
    exact ih hrest
  | case6 _ _ token tokens _ fault hf =>
    cases h
    exact .name fault token tokens hf
  | case7 => cases h

private theorem failsWith_columns : columns.FailsWith Fault.StopsName := by
  rintro ⟨position, tokens⟩ e cursor' h
  cases tokens with
  | nil =>
    cases h
    exact .ended .columnList
  | cons t tokens =>
    by_cases ht : t = Token.wildcard
    · rw [ht, runFrom_columns_wildcard] at h
      cases h
    · rw [runFrom_columns_of_ne position t tokens ht] at h
      refine FailsWith.bind (failsWith_name _) (fun first ↦ ?_) _ _ _ h
      exact failsWith_otherColumns.bind fun others ↦ failsWith_pure _

private theorem runFrom_countClause_eq_error (c : Clause) (position : Nat) (tokens : List String)
    (e : ParseError) (reached : Cursor)
    (h : (countClause c).runFrom ⟨position, tokens⟩ = (.error e, reached)) :
    ∃ word rest, tokens = word :: rest ∧ c.opensWith word = true ∧
      (count c).runFrom ⟨position + 1, rest⟩ = (.error e, reached) := by
  by_cases ho : ∃ t ∈ tokens.head?, c.opensWith t = true
  · obtain ⟨word, hw, ho⟩ := ho
    obtain ⟨rest, rfl⟩ := List.head?_eq_some_iff.mp hw
    rw [runFrom_countClause_of_opens c position word rest ho,
      runFrom_bind_of_ok (runFrom_pass position word rest)] at h
    obtain h | ⟨n, _, _, h⟩ := runFrom_bind_eq_error h
    · exact ⟨word, rest, rfl, ho, h⟩
    · cases h
  · rw [runFrom_countClause_of_not c position tokens (by simpa using ho)] at h
    cases h

/-- Behind the table either a condition is refused, or the count of a clause that the counts in
front of it admit. -/
theorem runFrom_counts_eq_error (columns : Option Columns) (table : Identifier) (position : Nat)
    (tokens : List String) (e : ParseError) (reached : Cursor)
    (h : (counts columns table).runFrom ⟨position, tokens⟩ = (.error e, reached)) :
    (∃ t rest, tokens = t :: rest ∧ Clause.condition.opensWith t = true ∧
      e = ⟨position, .condition⟩ ∧ reached = ⟨position, tokens⟩) ∨
    ∃ front word rest s c, tokens = front ++ word :: rest ∧ CountTokens columns table front s ∧
      s.Admits c ∧ c ≠ .condition ∧ c.opensWith word = true ∧
      (count c).runFrom ⟨position + front.length + 1, rest⟩ = (.error e, reached) := by
  by_cases hc : ∃ t ∈ tokens.head?, Clause.condition.opensWith t = true
  · obtain ⟨t, ht, hc⟩ := hc
    obtain ⟨rest, rfl⟩ := List.head?_eq_some_iff.mp ht
    rw [runFrom_counts_condition columns table position t rest hc] at h
    cases h
    exact .inl ⟨t, rest, rfl, hc, rfl, rfl⟩
  · right
    rw [runFrom_counts_of_not columns table position tokens (by simpa using hc)] at h
    obtain hoffset | ⟨offset, ⟨place, ahead⟩, ho, hrest⟩ := runFrom_bind_eq_error h
    · obtain ⟨word, rest, rfl, hw, hcount⟩ := runFrom_countClause_eq_error _ _ _ _ _ hoffset
      exact ⟨[], word, rest, ⟨table, columns, none, none, none⟩, .offset, rfl,
        ⟨[], [], rfl, .absent, .absent, rfl, rfl, rfl⟩, .offset rfl rfl, by decide, hw,
        hcount⟩
    · obtain ⟨front, ha, hp, hf⟩ := (recognizes_countClause .offset).passed ho
      obtain hlimit | ⟨limit, _, _, hpure⟩ := runFrom_bind_eq_error hrest
      · obtain ⟨word, rest, rfl, hw, hcount⟩ := runFrom_countClause_eq_error _ _ _ _ _ hlimit
        obtain rfl : place = position + front.length := hp
        exact ⟨front, word, rest, ⟨table, columns, none, offset, none⟩, .limit, ha,
          ⟨front, [], by simp, hf, .absent, rfl, rfl, rfl⟩, .limit rfl, by decide, hw, hcount⟩
      · cases hpure

private theorem failsWith_counts (columns : Option Columns) (table : Identifier) :
    (counts columns table).FailsWith Fault.Stops := by
  rintro ⟨position, tokens⟩ e reached h
  obtain ⟨t, rest, rfl, _, rfl, rfl⟩ | ⟨front, word, rest, s, c, _, _, _, _, _, h⟩ :=
    runFrom_counts_eq_error columns table position tokens e reached h
  · exact .condition t rest
  · exact failsWith_count c _ _ _ h

/-- A statement stops at a word or a name up to its table, or in the clauses behind it. -/
theorem runFrom_statement_eq_error (position : Nat) (tokens : List String) (e : ParseError)
    (reached : Cursor) (h : statement.runFrom ⟨position, tokens⟩ = (.error e, reached)) :
    e.fault.StopsName reached.ahead ∨
    ∃ head rest columns table, tokens = head ++ rest ∧
      (∀ more s, CountTokens columns table more s →
        StatementTokens NameToken CountToken (head ++ more) s) ∧
      (counts columns table).runFrom ⟨position + head.length, rest⟩ = (.error e, reached) := by
  obtain hselect | ⟨_, ⟨p₁, t₁⟩, hok₁, h₁⟩ := runFrom_bind_eq_error h
  · exact .inl (failsWith_accept _ _ _ _ _ hselect)
  obtain hcolumns | ⟨cs, ⟨p₂, t₂⟩, hok₂, h₂⟩ := runFrom_bind_eq_error h₁
  · exact .inl (failsWith_columns _ _ _ hcolumns)
  obtain hsource | ⟨_, ⟨p₃, t₃⟩, hok₃, h₃⟩ := runFrom_bind_eq_error h₂
  · exact .inl (failsWith_accept _ _ _ _ _ hsource)
  obtain hname | ⟨i, ⟨p₄, t₄⟩, hok₄, hcounts⟩ := runFrom_bind_eq_error h₃
  · exact .inl (failsWith_name _ _ _ _ hname)
  right
  obtain ⟨_, rfl, hp₁, word, rfl, hw⟩ := (recognizes_clause .select).passed hok₁
  obtain ⟨columns, ha₂, hp₂, hc⟩ := recognizes_columns.passed hok₂
  obtain ⟨_, ha₃, hp₃, source, rfl, hs⟩ := (recognizes_clause .source).passed hok₃
  obtain ⟨_, ha₄, hp₄, table, rfl, ht⟩ := (recognizes_name .tableName).passed hok₄
  dsimp only at ha₂ ha₃ ha₄ hp₁ hp₂ hp₃ hp₄ ⊢
  refine ⟨[word] ++ columns ++ [source, table], t₄, cs, i, ?_, ?_, ?_⟩
  · simp [ha₂, ha₃, ha₄]
  · rintro _ s ⟨offset, limit, rfl, ho, hl, rfl, rfl, hn⟩
    exact ⟨word, columns, source, table, offset, limit, by simp, hw, hc, hs, ht, ho, hl, hn⟩
  · have hp : p₄ = position + ([word] ++ columns ++ [source, table]).length := by
      simp only [List.length_append, List.length_cons, List.length_nil] at hp₁ hp₃ hp₄ ⊢
      omega
    rw [← hp]
    exact hcounts

private theorem failsWith_statement : statement.FailsWith Fault.Stops := by
  rintro ⟨position, tokens⟩ e reached h
  obtain hname | ⟨_, _, columns, table, _, _, h⟩ := runFrom_statement_eq_error _ _ _ _ h
  · exact .ofName hname
  · exact failsWith_counts columns table _ _ _ h

/-! ### Selections -/

/-- A selection stops inside a statement, or it passes a whole statement and ends there. Which of
the two, and where, is the same whatever is done with leftover tokens. -/
theorem runFrom_select_cases (position : Nat) (tokens : List String) :
    ∃ passed rest, tokens = passed ++ rest ∧
      ((∃ e, e.index = position + passed.length ∧ e.fault.Stops rest ∧
          ∀ leftover, (select leftover).runFrom ⟨position, tokens⟩ =
            (.error e, ⟨position + passed.length, rest⟩)) ∨
        ∃ s, StatementTokens NameToken CountToken passed s ∧
          ∀ leftover, (select leftover).runFrom ⟨position, tokens⟩ =
            (ending leftover s).runFrom ⟨position + passed.length, rest⟩) := by
  obtain ⟨passed, rest, r, rfl, ho, hr⟩ := recognizes_statement.recognizesAt position tokens
  have hrun := hr rest rfl
  refine ⟨passed, rest, rfl, ?_⟩
  cases r with
  | error e =>
    refine .inl ⟨e, ho.2.1, failsWith_statement _ _ _ hrun, ?_⟩
    intro leftover
    rw [select_eq_statement_bind_ending, runFrom_bind_of_error hrun]
  | ok s =>
    refine .inr ⟨s, ho, ?_⟩
    intro leftover
    rw [select_eq_statement_bind_ending, runFrom_bind_of_ok hrun]

end Parser
end SelectFind
