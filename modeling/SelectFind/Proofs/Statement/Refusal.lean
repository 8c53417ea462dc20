import SelectFind.Proofs.Statement.Leftover

/-!
# What a fault says of the tokens in front of it

Where no token may be left over, a failure is known by the tokens in front of it and the one in
view. Behind a whole statement a token either opens a clause that the statement admits, or it is
left over; the condition is refused at its word, and a count that is negative or no integer at the
token behind the word of its clause. Everything else is refused where no statement has ended.
-/

namespace SelectFind

/-- The statement with a count for one of its clauses. -/
def Statement.withCount (statement : Statement) (c : Clause) (n : UInt64) : Statement :=
  match c with
  | .offset => { statement with offset := some n }
  | .limit => { statement with limit := some n }
  | _ => statement

/-- Tokens that spell a statement admit the word of a clause and a count behind them. -/
theorem StatementTokens.concat_clause (tokens : List String) (statement : Statement)
    (h : StatementTokens NameToken CountToken tokens statement) (c : Clause)
    (ha : statement.Admits c) (hc : c ≠ .condition) (word t : String) (n : UInt64)
    (hw : c.opensWith word = true) (ht : CountToken t n) :
    StatementTokens NameToken CountToken (tokens ++ [word, t]) (statement.withCount c n) := by
  obtain ⟨select, columns, source, table, offset, limit, rfl, hs, hcs, hf, hn, ho, hl, hcond⟩ := h
  cases ha with
  | condition => exact absurd rfl hc
  | offset hoffset hlimit =>
    obtain rfl := ho.eq_nil hoffset
    obtain rfl := hl.eq_nil hlimit
    exact ⟨select, columns, source, table, [word, t], [], by simp, hs, hcs, hf, hn,
      .present hw ht, hl, hcond⟩
  | limit hlimit =>
    obtain rfl := hl.eq_nil hlimit
    exact ⟨select, columns, source, table, offset, [word, t], by simp, hs, hcs, hf, hn, ho,
      .present hw ht, hcond⟩

namespace ParseError

/-- A condition is the only fault of its kind. -/
theorem kind_eq_unsupported_iff (e : ParseError) :
    e.kind = .unsupported ↔ e.fault = .condition := by
  obtain ⟨index, fault⟩ := e
  cases fault <;> simp [kind]

/-- Negative counts are the only faults of their kind. -/
theorem kind_eq_range_iff (e : ParseError) :
    e.kind = .range ↔ ∃ c value, e.fault = .negative c value := by
  obtain ⟨index, fault⟩ := e
  cases fault <;> simp [kind]

private theorem kind_eq_grammatical (e : ParseError) (hc : e.fault ≠ .condition)
    (hn : ∀ c value, e.fault ≠ .negative c value) : e.kind = .grammatical := by
  obtain ⟨index, fault⟩ := e
  cases fault with
  | condition => exact absurd rfl hc
  | negative c value => exact absurd rfl (hn c value)
  | _ => rfl

end ParseError

namespace Parser

private theorem runFrom_counts_count_error (columns : Option Columns) (table : Identifier)
    (tokens : List String) (s : Statement) (h : CountTokens columns table tokens s) (c : Clause)
    (ha : s.Admits c) (hc : c ≠ .condition) (word t : String) (hw : c.opensWith word = true)
    (fault : Fault) (hf : countOf c t = .error fault) (position : Nat) (rest : List String) :
    (counts columns table).runFrom ⟨position, tokens ++ word :: t :: rest⟩ =
      (.error ⟨position + tokens.length + 1, fault⟩,
        ⟨position + tokens.length + 1, t :: rest⟩) := by
  have hclause (place : Nat) : (countClause c).runFrom ⟨place, word :: t :: rest⟩ =
      (.error ⟨place + 1, fault⟩, ⟨place + 1, t :: rest⟩) := by
    rw [runFrom_countClause_of_opens c place word _ hw, runFrom_bind_of_ok (runFrom_pass _ _ _)]
    exact runFrom_bind_of_error (runFrom_token_error _ _ _ t rest fault hf) _
  have hcond := not_opensWith_condition columns table tokens s h (word :: t :: rest) (by
    rintro _ _ ⟨⟩
    exact Clause.opensWith_eq_false c .condition word hw hc)
  rw [runFrom_counts_of_not columns table position _ hcond]
  obtain ⟨offset, limit, rfl, ho, hl, _, _, _⟩ := h
  cases ha with
  | condition => exact absurd rfl hc
  | offset hoffset hlimit =>
    obtain rfl := ho.eq_nil hoffset
    obtain rfl := hl.eq_nil hlimit
    exact runFrom_bind_of_error (hclause position) _
  | limit hlimit =>
    obtain rfl := hl.eq_nil hlimit
    rw [List.append_nil, runFrom_bind_of_ok (runFrom_countClause_ok .offset offset _ ho position
      (word :: t :: rest) _), runFrom_bind_of_error (hclause _)]
    rintro _ _ ⟨⟩
    exact Clause.opensWith_eq_false .limit .offset word hw (by decide)

/-- A token is refused as negative exactly if it is an integer of 64 bits below zero. -/
theorem countOf_eq_negative_iff (c e : Clause) (t : String) (value : Int) :
    countOf c t = .error (.negative e value) ↔
      c = e ∧ Text.int64? t = some value ∧ value < 0 := by
  unfold countOf
  split
  · next h => simp [h]
  · next n h =>
    simp only [h, Except.error.injEq, Fault.negative.injEq, Option.some.injEq]
    constructor
    · rintro ⟨rfl, rfl⟩
      exact ⟨rfl, rfl, Int.negSucc_lt_zero n⟩
    · rintro ⟨rfl, rfl, _⟩
      exact ⟨rfl, rfl⟩
  · next n h =>
    simp only [h, Option.some.injEq, reduceCtorEq, false_iff]
    rintro ⟨_, rfl, hlt⟩
    exact absurd hlt (by simp)

end Parser

namespace Statement

/-! ### Behind a whole statement -/

private theorem ofTokens_condition (tokens : List String) (statement : Statement)
    (h : StatementTokens NameToken CountToken tokens statement) (ha : statement.Admits .condition)
    (t : String) (ht : Clause.condition.opensWith t = true) (rest : List String) :
    Statement.ofTokens .reject (tokens ++ t :: rest) = .error ⟨tokens.length, .condition⟩ := by
  cases ha with
  | condition ho hl =>
    rw [ofTokens_eq, ← Cursor.start,
      Parser.runFrom_select_condition .reject tokens statement t rest h ho hl ht]
    rfl

/-- A token that is no count is refused behind the word of a clause that the statement admits,
whatever is done with leftover tokens. -/
theorem ofTokens_count_error (leftover : Leftover) (tokens : List String) (statement : Statement)
    (h : StatementTokens NameToken CountToken tokens statement) (c : Clause)
    (ha : statement.Admits c) (hc : c ≠ .condition) (word t : String)
    (hw : c.opensWith word = true) (fault : Fault) (hf : Parser.countOf c t = .error fault)
    (rest : List String) :
    Statement.ofTokens leftover (tokens ++ word :: t :: rest) =
      .error ⟨tokens.length + 1, fault⟩ := by
  obtain ⟨select, columns, source, table, offset, limit, rfl, hs, hcs, hfrom, hn, ho, hl,
    hcond⟩ := h
  have hcounts : Parser.CountTokens statement.columns statement.table (offset ++ limit) statement :=
    ⟨offset, limit, rfl, ho, hl, rfl, rfl, hcond⟩
  have hrun := Parser.runFrom_counts_count_error _ _ _ statement hcounts c ha hc word t hw fault hf
    (0 + ([select] ++ columns ++ [source, table]).length) rest
  rw [← Parser.runFrom_statement_upToTable select columns source table _ _ hs hcs hfrom hn] at hrun
  rw [ofTokens_eq, Parser.select_eq_statement_bind_ending, List.append_assoc _ offset limit,
    List.append_assoc, Parser.runFrom_bind_of_error hrun, Nat.zero_add, ← List.length_append]
  rfl

private theorem ofTokens_leftover (tokens : List String) (statement : Statement)
    (h : StatementTokens NameToken CountToken tokens statement) (t : String)
    (ht : ∀ c, statement.Admits c → c.opensWith t = false) (rest : List String) :
    Statement.ofTokens .reject (tokens ++ t :: rest) = .error ⟨tokens.length, .leftover t⟩ := by
  have hrun := Parser.runFrom_statement_ok tokens statement h 0 (t :: rest) (by
    rintro _ ⟨⟩
    exact ht)
  rw [ofTokens_eq, Parser.select_eq_statement_bind_ending, Parser.runFrom_bind_of_ok hrun,
    Nat.zero_add, Parser.runFrom_ending_reject]
  rfl

private theorem fault_behind_statement (tokens : List String) (statement : Statement)
    (h : StatementTokens NameToken CountToken tokens statement) (t : String) (rest : List String)
    (fault : Fault)
    (he : Statement.ofTokens .reject (tokens ++ t :: rest) = .error ⟨tokens.length, fault⟩) :
    statement.Admits .condition ∧ Clause.condition.opensWith t = true ∧ fault = .condition ∨
      (∀ c, statement.Admits c → c.opensWith t = false) ∧ fault = .leftover t := by
  by_cases ho : ∃ c, statement.Admits c ∧ c.opensWith t = true
  · obtain ⟨c, ha, ht⟩ := ho
    by_cases hc : c = .condition
    · subst hc
      rw [ofTokens_condition tokens statement h ha t ht rest] at he
      cases he
      exact .inl ⟨ha, ht, rfl⟩
    · -- With a count behind the word the statement goes on, so the word cannot be refused.
      have hl := h.concat_clause tokens statement c ha hc t "0" 0 ht countToken_zero
      have hv : Viable ((tokens ++ t :: rest).take (tokens.length + 1)) := by
        rw [List.take_length_add_append]
        refine ⟨["0"], statement.withCount c 0, ?_⟩
        rw [List.append_assoc]
        exact ofTokens_of_statementTokens .reject _ _ hl
      have hle := le_index_of_viable_take _ _ he (tokens.length + 1) (by simp) hv
      dsimp only at hle
      omega
  · have hno : ∀ c, statement.Admits c → c.opensWith t = false := by
      intro c ha
      by_contra hn
      exact ho ⟨c, ha, by simpa using hn⟩
    rw [ofTokens_leftover tokens statement h t hno rest] at he
    cases he
    exact .inr ⟨hno, rfl⟩

/-! ### Every failure -/

/-- What is refused, by the tokens that were passed and those ahead. -/
inductive Refused : List String → List String → Fault → Prop
  | name {passed ahead : List String} {fault : Fault} (h : fault.StopsName ahead) :
      Refused passed ahead fault
  | condition {passed : List String} {statement : Statement} {t : String} {rest : List String}
      (hs : StatementTokens NameToken CountToken passed statement)
      (ha : statement.Admits .condition) (ht : Clause.condition.opensWith t = true) :
      Refused passed (t :: rest) .condition
  | count {front : List String} {statement : Statement} {c : Clause} {word t : String}
      {rest : List String} {fault : Fault}
      (hs : StatementTokens NameToken CountToken front statement) (ha : statement.Admits c)
      (hc : c ≠ .condition) (hw : c.opensWith word = true)
      (hf : Parser.countOf c t = .error fault) : Refused (front ++ [word]) (t :: rest) fault
  | leftover {passed : List String} {statement : Statement} {t : String} {rest : List String}
      (hs : StatementTokens NameToken CountToken passed statement) :
      Refused passed (t :: rest) (.leftover t)

/-- Every failure is refused for what was passed and what is ahead. -/
theorem refused_of_ofTokens (passed ahead : List String) (fault : Fault)
    (h : Statement.ofTokens .reject (passed ++ ahead) = .error ⟨passed.length, fault⟩) :
    Refused passed ahead fault := by
  obtain ⟨front, rest, r, hsplit, ho, hr⟩ :=
    Parser.recognizes_statement.recognizesAt 0 (passed ++ ahead)
  have hrun := hr rest rfl
  rw [← hsplit, Nat.zero_add] at hrun
  rw [ofTokens_eq, Parser.select_eq_statement_bind_ending] at h
  cases r with
  | ok statement =>
    rw [Parser.runFrom_bind_of_ok hrun] at h
    cases rest with
    | nil => cases h
    | cons t rest =>
      obtain ⟨hi, rfl⟩ := ParseError.mk.inj (Except.error.inj h)
      obtain ⟨rfl, rfl⟩ := List.append_inj hsplit hi.symm
      exact .leftover ho
  | error e =>
    rw [Parser.runFrom_bind_of_error hrun] at h
    obtain rfl : e = ⟨passed.length, fault⟩ := Except.error.inj h
    obtain ⟨_, hi, _⟩ := ho
    rw [Nat.zero_add] at hi
    obtain ⟨rfl, rfl⟩ := List.append_inj hsplit hi
    obtain hname | ⟨head, rest, columns, table, hhead, hmore, hcounts⟩ :=
      Parser.runFrom_statement_eq_error _ _ _ _ hrun
    · exact .name hname
    obtain ⟨t, rest, rfl, ht, he, _⟩ | ⟨counts, word, rest, s, c, rfl, hs, ha, hc, hw, hcount⟩ :=
      Parser.runFrom_counts_eq_error _ _ _ _ _ _ hcounts
    · obtain ⟨hplace, rfl⟩ := ParseError.mk.inj he
      rw [Nat.zero_add] at hplace
      obtain ⟨rfl, rfl⟩ := List.append_inj hhead hplace
      have hs := hmore [] ⟨table, columns, none, none, none⟩
        ⟨[], [], rfl, .absent, .absent, rfl, rfl, rfl⟩
      rw [List.append_nil] at hs
      exact .condition hs (.condition rfl rfl) ht
    · obtain ⟨hreached, ⟨rfl, he⟩ | ⟨t, behind, _, rfl, hf, he⟩⟩ :=
        Parser.runFrom_token_eq_error _ _ _ _ _ _ hcount
      · obtain rfl : ahead = [] := congrArg Cursor.ahead hreached
        obtain rfl : fault = .ended .integer := congrArg ParseError.fault he
        exact .name (.ended .integer)
      · obtain ⟨hplace, rfl⟩ := ParseError.mk.inj he
        rw [← List.append_assoc, List.append_cons] at hhead
        have hlength : passed.length = (head ++ counts ++ [word]).length := by
          simp only [List.length_append, List.length_singleton]
          omega
        obtain ⟨rfl, rfl⟩ := List.append_inj hhead hlength
        exact .count (hmore counts s hs) ha hc hw hf

/-! ### The kinds of failure -/

/-- The tokens are a statement without counts, and the token behind them opens a condition. -/
def ConditionBehind (tokens : List String) (t : String) : Prop :=
  (∃ statement, Statement.ofTokens .reject tokens = .ok statement ∧ statement.offset = none ∧
    statement.limit = none) ∧ Clause.condition.opensWith t = true

/-- The last of the tokens is the word of a clause of counts that the statement in front of it can
go on with, and the token behind them is a negative integer of 64 bits. -/
def NegativeBehind (tokens : List String) (t : String) (c : Clause) (value : Int) : Prop :=
  ∃ front word, tokens = front ++ [word] ∧ (c = .offset ∨ c = .limit) ∧ c.opensWith word = true ∧
    (∃ statement, Statement.ofTokens .reject front = .ok statement) ∧
    (∃ statement, Statement.ofTokens .reject (front ++ [word, "0"]) = .ok statement) ∧
    Text.int64? t = some value ∧ value < 0

/-- What an error says of the tokens in front of it and of its token. -/
structure ErrorLaw (tokens : List String) (t : String) (e : ParseError) : Prop where
  condition : e.fault = .condition ↔ ConditionBehind tokens t
  negative : ∀ c value, e.fault = .negative c value ↔ NegativeBehind tokens t c value
  leftover : ∀ found, e.fault = .leftover found ↔
    found = t ∧ (∃ statement, Statement.ofTokens .reject tokens = .ok statement) ∧
      ¬ConditionBehind tokens t
  /-- Any other error is one of the grammar, and the tokens in front of it are no statement. -/
  remaining : e.fault ≠ .condition → (∀ c value, e.fault ≠ .negative c value) →
    (∀ found, e.fault ≠ .leftover found) →
    e.kind = .grammatical ∧ ∀ statement, Statement.ofTokens .reject tokens ≠ .ok statement
  unsupported : e.kind = .unsupported ↔ ConditionBehind tokens t
  range : e.kind = .range ↔ ∃ c value, NegativeBehind tokens t c value
  /-- A condition behind a count is an error of the grammar. -/
  late_condition : ∀ statement, Statement.ofTokens .reject tokens = .ok statement →
    statement.offset ≠ none ∨ statement.limit ≠ none → Clause.condition.opensWith t = true →
    e.kind = .grammatical

private theorem admits_of_ofTokens (tokens : List String) (statement : Statement)
    (h : StatementTokens NameToken CountToken tokens statement) (c : Clause) (word t : String)
    (hw : c.opensWith word = true) (longer : Statement)
    (hl : Statement.ofTokens .reject (tokens ++ [word, t]) = .ok longer) : statement.Admits c := by
  by_contra hn
  have hno (d : Clause) (hd : statement.Admits d) : d.opensWith word = false := by
    apply Clause.opensWith_eq_false c d word hw
    rintro rfl
    exact hn hd
  rw [ofTokens_leftover tokens statement h word hno [t]] at hl
  cases hl

private theorem fault_eq_condition_iff (tokens : List String) (t : String) (rest : List String)
    (fault : Fault)
    (h : Statement.ofTokens .reject (tokens ++ t :: rest) = .error ⟨tokens.length, fault⟩) :
    fault = .condition ↔ ConditionBehind tokens t := by
  constructor
  · intro hf
    have hr := refused_of_ofTokens tokens (t :: rest) fault h
    rw [hf] at hr
    cases hr with
    | name hn => cases hn
    | @condition _ statement _ _ hs ha ht =>
      cases ha with
      | condition ho hl =>
        exact ⟨⟨statement, ofTokens_of_statementTokens .reject tokens statement hs, ho, hl⟩, ht⟩
    | count _ _ _ _ hcount =>
      obtain hf | ⟨_, hf⟩ := Parser.countOf_eq_error _ _ _ hcount <;> cases hf
  · rintro ⟨⟨statement, hs, ho, hl⟩, ht⟩
    have hs := statementTokens_of_ofTokens tokens statement hs
    rw [ofTokens_condition tokens statement hs (.condition ho hl) t ht rest] at h
    cases h
    rfl

private theorem fault_eq_negative_iff (tokens : List String) (t : String) (rest : List String)
    (fault : Fault) (c : Clause) (value : Int)
    (h : Statement.ofTokens .reject (tokens ++ t :: rest) = .error ⟨tokens.length, fault⟩) :
    fault = .negative c value ↔ NegativeBehind tokens t c value := by
  constructor
  · intro hf
    have hr := refused_of_ofTokens tokens (t :: rest) fault h
    rw [hf] at hr
    cases hr with
    | name hn => cases hn
    | @count front statement d word _ _ _ hs ha hd hw hcount =>
      obtain ⟨rfl, hi, hlt⟩ := (Parser.countOf_eq_negative_iff d c t value).mp hcount
      have hl := hs.concat_clause front statement d ha hd word "0" 0 hw countToken_zero
      have hclause : d = .offset ∨ d = .limit := by
        cases ha with
        | condition => exact absurd rfl hd
        | offset => exact .inl rfl
        | limit => exact .inr rfl
      exact ⟨front, word, rfl, hclause, hw,
        ⟨statement, ofTokens_of_statementTokens .reject front statement hs⟩,
        ⟨_, ofTokens_of_statementTokens .reject _ _ hl⟩, hi, hlt⟩
  · rintro ⟨front, word, rfl, hclause, hw, ⟨statement, hs⟩, ⟨longer, hl⟩, hi, hlt⟩
    have hs := statementTokens_of_ofTokens front statement hs
    have ha := admits_of_ofTokens front statement hs c word "0" hw longer hl
    have hc : c ≠ .condition := by
      rintro rfl
      simp at hclause
    have hcount := (Parser.countOf_eq_negative_iff c c t value).mpr ⟨rfl, hi, hlt⟩
    rw [List.append_assoc, List.singleton_append,
      ofTokens_count_error .reject front statement hs c ha hc word t hw _ hcount rest] at h
    exact (congrArg ParseError.fault (Except.error.inj h)).symm

private theorem fault_eq_leftover_iff (tokens : List String) (t : String) (rest : List String)
    (fault : Fault) (found : String)
    (h : Statement.ofTokens .reject (tokens ++ t :: rest) = .error ⟨tokens.length, fault⟩) :
    fault = .leftover found ↔
      found = t ∧ (∃ statement, Statement.ofTokens .reject tokens = .ok statement) ∧
        ¬ConditionBehind tokens t := by
  have hcondition := fault_eq_condition_iff tokens t rest fault h
  constructor
  · intro hf
    have hr := refused_of_ofTokens tokens (t :: rest) fault h
    rw [hf] at hr hcondition
    cases hr with
    | name hn => cases hn
    | count _ _ _ _ hcount =>
      obtain hf | ⟨_, hf⟩ := Parser.countOf_eq_error _ _ _ hcount <;> cases hf
    | @leftover _ statement _ _ hs =>
      refine ⟨rfl, ⟨statement, ofTokens_of_statementTokens .reject tokens statement hs⟩, ?_⟩
      intro hb
      cases hcondition.mpr hb
  · rintro ⟨rfl, ⟨statement, hs⟩, hb⟩
    have hs := statementTokens_of_ofTokens tokens statement hs
    obtain ⟨_, _, hf⟩ | ⟨_, hf⟩ := fault_behind_statement tokens statement hs found rest fault h
    · exact absurd (hcondition.mp hf) hb
    · exact hf

private theorem errorLaw_of_ofTokens (tokens : List String) (t : String) (rest : List String)
    (fault : Fault)
    (h : Statement.ofTokens .reject (tokens ++ t :: rest) = .error ⟨tokens.length, fault⟩) :
    ErrorLaw tokens t ⟨tokens.length, fault⟩ := by
  have hcondition := fault_eq_condition_iff tokens t rest fault h
  have hnegative (c : Clause) (value : Int) := fault_eq_negative_iff tokens t rest fault c value h
  have hleftover (found : String) := fault_eq_leftover_iff tokens t rest fault found h
  refine ⟨hcondition, hnegative, hleftover, ?_, ?_, ?_, ?_⟩
  · intro hc hn hl
    constructor
    · exact ParseError.kind_eq_grammatical _ hc hn
    · intro statement hs
      have hs := statementTokens_of_ofTokens tokens statement hs
      obtain ⟨_, _, hf⟩ | ⟨_, hf⟩ := fault_behind_statement tokens statement hs t rest fault h
      · exact hc hf
      · exact hl t hf
  · rw [ParseError.kind_eq_unsupported_iff, hcondition]
  · simp only [ParseError.kind_eq_range_iff, hnegative]
  · intro statement hs hcount ht
    have hs := statementTokens_of_ofTokens tokens statement hs
    obtain ⟨ha, _, _⟩ | ⟨_, rfl⟩ := fault_behind_statement tokens statement hs t rest fault h
    · cases ha with
      | condition ho hl => simp [ho, hl] at hcount
    · rfl

/-- When no token may be left over, the kind of a failure at a token is decided by what the tokens
in front of it would be read as. -/
theorem ofTokens_reject_error_kind (tokens : List String) (e : ParseError)
    (h : Statement.ofTokens .reject tokens = .error e) (t : String)
    (ht : tokens[e.index]? = some t) : ErrorLaw (tokens.take e.index) t e := by
  obtain ⟨index, fault⟩ := e
  obtain ⟨hlt, rfl⟩ := List.getElem?_eq_some_iff.mp ht
  have hlaw := errorLaw_of_ofTokens (tokens.take index) tokens[index] (tokens.drop (index + 1))
    fault
  rw [← List.drop_eq_getElem_cons hlt, List.take_append_drop,
    List.length_take_of_le (Nat.le_of_lt hlt)] at hlaw
  exact hlaw h

/-- A negative count behind another count. -/
theorem ofTokens_reject_error_kind_negative_limit :
    Statement.ofTokens .reject
        ["select", "a", ",", "`b c`", "From", "t", "offset", "+07", "Limit", "-5", "x"] =
        .error ⟨9, .negative .limit (-5)⟩ ∧
      ErrorLaw ["select", "a", ",", "`b c`", "From", "t", "offset", "+07", "Limit"] "-5"
        ⟨9, .negative .limit (-5)⟩ := by
  have h : Statement.ofTokens .reject
      ["select", "a", ",", "`b c`", "From", "t", "offset", "+07", "Limit", "-5", "x"] =
      .error ⟨9, .negative .limit (-5)⟩ := by
    decide +kernel
  exact ⟨h, ofTokens_reject_error_kind _ _ h "-5" rfl⟩

end Statement
end SelectFind
