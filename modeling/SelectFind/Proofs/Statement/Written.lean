import SelectFind.Proofs.Statement.Spelling

/-!
# What is read can be written

The tokens of a text are more than arbitrary texts: where one starts with a delimiter it is a quoted
token, which this delimiter encloses, and elsewhere it is bare or the comma. So a name that is read
from a text is spelled there in one of the ways in which it can be written, and a statement that is
read from a text can be written, whatever is done with leftover tokens.
-/

namespace SelectFind

/-- Different delimiters have different characters. -/
theorem Delimiter.char_injective {d e : Delimiter} (h : d.char = e.char) : d = e := by
  rw [← Option.some.injEq, ← Delimiter.ofChar?_char d, h, Delimiter.ofChar?_char]

private theorem Delimiter.quote_inj (d e : Delimiter) (name other : String)
    (h : d.quote name = e.quote other) : d = e ∧ name = other := by
  have hl := congrArg String.toList h
  rw [Delimiter.toList_quote, Delimiter.toList_quote] at hl
  obtain ⟨hc, hrest⟩ := List.cons.inj hl
  obtain rfl := Delimiter.char_injective hc
  exact ⟨rfl, String.toList_injective (List.append_cancel_right hrest)⟩

/-- What stands between the delimiters of a token is enclosed by them. -/
theorem Delimiter.encloses_of_isToken (d : Delimiter) (name : String)
    (h : Token.IsToken (d.quote name)) : d.Encloses name.toList := by
  rcases h with hb | ⟨e, other, hn, he⟩ | hs
  · exact absurd (by simp) (hb.unquoted d)
  · obtain ⟨rfl, rfl⟩ := Delimiter.quote_inj d e name other he
    exact hn
  · have hl := congrArg String.toList hs
    rw [Delimiter.toList_quote, Token.toList_separator] at hl
    simp at hl

/-- A token of a text that spells a name is a way of writing it. -/
theorem NameToken.nameSpelling (t : String) (i : Identifier) (h : NameToken t i)
    (ht : Token.IsToken t) : NameSpelling t i := by
  cases h with
  | quoted d text => exact .quoted d (d.encloses_of_isToken text ht)
  | bare hne hd hs hw hr =>
    rcases ht with hb | ⟨e, name, _, rfl⟩ | hsep
    · exact .bare hb hw hr
    · exact absurd (by simp) (hd e)
    · exact absurd hsep hs

private theorem exists_mem_of_forall₂ {name : String → Identifier → Prop} (tokens : List String)
    (identifiers : List Identifier) (h : List.Forall₂ name tokens identifiers) (i : Identifier)
    (hi : i ∈ identifiers) : ∃ t ∈ tokens, name t i := by
  induction h with
  | nil => cases hi
  | @cons t _ _ _ ht _ ih =>
    rcases List.mem_cons.mp hi with rfl | hi
    · exact ⟨t, List.mem_cons_self, ht⟩
    · obtain ⟨u, hu, hn⟩ := ih hi
      exact ⟨u, List.mem_cons_of_mem t hu, hn⟩

/-- Each column is spelled by one of the tokens of the columns. -/
theorem ColumnTokens.exists_mem {name : String → Identifier → Prop} (tokens : List String)
    (columns : Option Columns) (h : ColumnTokens name tokens columns) :
    ∀ cs ∈ columns, ∀ i ∈ cs.toList, ∃ t ∈ tokens, name t i := by
  cases h with
  | all => rintro _ ⟨⟩
  | @names names columns h =>
    rintro _ ⟨⟩ i hi
    obtain ⟨t, hm, hn⟩ := exists_mem_of_forall₂ names columns.toList h i hi
    refine ⟨t, ?_, hn⟩
    cases names with
    | nil => cases hm
    | cons u names =>
      rw [intersperse_separator]
      rcases List.mem_cons.mp hm with rfl | hm
      · exact List.mem_cons_self
      · exact List.mem_cons_of_mem u (List.mem_flatMap.mpr ⟨t, hm, by simp⟩)

private theorem NameToken.writable (t : String) (i : Identifier) (h : NameToken t i)
    (ht : Token.IsToken t) : i.Writable :=
  (Statement.exists_nameSpelling_iff i).mp ⟨t, h.nameSpelling t i ht⟩

private theorem ClauseTokens.fitsSigned (c : Clause) (tokens : List String) (count : Option UInt64)
    (h : ClauseTokens CountToken c tokens count) : ∀ n ∈ count, FitsSigned n := by
  cases h with
  | absent => rintro _ ⟨⟩
  | present _ ht =>
    rintro _ ⟨⟩
    exact ht.2

namespace Statement

private theorem writable_of_statementTokens (tokens : List String) (statement : Statement)
    (h : StatementTokens NameToken CountToken tokens statement)
    (ht : ∀ t ∈ tokens, Token.IsToken t) : statement.Writable := by
  obtain ⟨word, columns, source, table, offset, limit, rfl, _, hc, _, hn, ho, hl, hcond⟩ := h
  refine ⟨hcond, hn.writable _ _ (ht table (by simp)), ?_, ho.fitsSigned, hl.fitsSigned⟩
  intro cs hcs i hi
  obtain ⟨t, hm, hi⟩ := hc.exists_mem columns _ cs hcs i hi
  exact hi.writable t i (ht t (by simp [hm]))

/-- A text that is read as a statement is divided into tokens, and the first of them spell the
statement. -/
theorem statementTokens_of_ofText (settings : Settings) (sql : String) (statement : Statement)
    (h : Statement.ofText settings sql = .ok statement) :
    ∃ body rest, tokenize sql = .ok (body ++ rest) ∧
      StatementTokens NameToken CountToken body statement := by
  cases ht : tokenize sql with
  | error e =>
    rw [ofText_of_tokenize_error settings sql e ht] at h
    cases h
  | ok tokens =>
    rw [ofText_of_tokenize settings sql tokens ht] at h
    cases hs : Statement.ofTokens settings.leftover tokens with
    | error e =>
      rw [hs] at h
      cases h
    | ok read =>
      rw [hs] at h
      cases h
      obtain ⟨selection, rfl, body, rest, rfl, hb, _⟩ :=
        selectionTokens_of_ofTokens settings.leftover tokens statement hs
      exact ⟨body, rest, rfl, hb⟩

/-- A statement that is read from a text can be written. -/
theorem writable_of_ofText (settings : Settings) (sql : String) (statement : Statement)
    (h : Statement.ofText settings sql = .ok statement) : statement.Writable := by
  obtain ⟨body, rest, ht, hb⟩ := statementTokens_of_ofText settings sql statement h
  apply writable_of_statementTokens body statement hb
  intro t hm
  exact isToken_of_mem_tokenize sql _ ht t (List.mem_append_left rest hm)

end Statement
end SelectFind
