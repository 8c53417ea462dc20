import SelectFind.Statement.Text
import SelectFind.Proofs.Statement.Acceptance
import SelectFind.Proofs.Token.Layout

/-!
# Reading undoes writing

A statement without a condition is written as a text in many ways: reserved words in any case,
quoted names between any delimiters that enclose them, counts with a plus sign and zeros in front,
and any blanks around the tokens that keep them apart. Every such text is read as the statement,
under any settings, so all of them give the same query.
-/

namespace SelectFind

/-! ### Ways of writing -/

/-- A name is written between delimiters that enclose it, or bare where it is a bare token and not
mistaken for the asterisk or a reserved word. -/
inductive NameSpelling : String → Identifier → Prop
  | quoted (d : Delimiter) {name : String} (h : d.Encloses name.toList) :
      NameSpelling (d.quote name) ⟨name, true⟩
  | bare {name : String} (hb : Token.IsBareToken name) (hw : name ≠ Token.wildcard)
      (hr : isReserved name = false) : NameSpelling name ⟨name, false⟩

/-- A count that fits a signed word of 64 bits is written with a plus sign or none, any number of
zeros and its shortest numeral. -/
def CountSpelling (t : String) (n : UInt64) : Prop :=
  FitsSigned n ∧ ∃ sign ∈ ["", "+"], ∃ zeros : Nat,
    t = sign ++ (String.ofList (List.replicate zeros '0') ++ Text.decimal n.toNat)

/-- A name can be written: between some delimiters if it is quoted, else bare. -/
def Identifier.Writable (i : Identifier) : Prop :=
  if i.quoted then ∃ d : Delimiter, d.Encloses i.name.toList
  else Token.IsBareToken i.name ∧ i.name ≠ Token.wildcard ∧ isReserved i.name = false

namespace Statement

/-- A statement can be written: it has no condition, its names can be written, and its counts fit a
signed word of 64 bits. -/
structure Writable (statement : Statement) : Prop where
  condition : statement.condition = none
  table : statement.table.Writable
  columns : ∀ columns ∈ statement.columns, ∀ i ∈ columns.toList, i.Writable
  offset : ∀ n ∈ statement.offset, FitsSigned n
  limit : ∀ n ∈ statement.limit, FitsSigned n

/-- The text is a way of writing the statement: its tokens in any spelling, and blanks around them
that keep them apart. -/
def WrittenAs (statement : Statement) (text : String) : Prop :=
  ∃ front pieces, Token.IsSpaced front pieces ∧ text = Token.layout front pieces ∧
    StatementTokens NameSpelling CountSpelling (pieces.map Token.Piece.token) statement

end Statement

/-! ### What is written is a token -/

namespace Token

-- The ranges of blanks lie on either side of the plus sign, the digits and the letters.
private theorem isBlank_of_mem_ascii (c : Char) (h : 43 ≤ c.toNat ∧ c.toNat ≤ 122) :
    Text.isBlank c = false := by
  have hr : ∀ r ∈ Text.blankRanges, r.2 < 43 ∨ 122 < r.1 := by decide
  unfold Text.isBlank Text.inRanges
  rw [List.any_eq_false]
  intro r hm
  have := hr r hm
  simp only [Bool.and_eq_true, decide_eq_true_eq]
  omega

private theorem isBareToken_of_forall (t : String) (hne : t ≠ "")
    (h : ∀ c ∈ t.toList, c.toNat = 43 ∨ 48 ≤ c.toNat ∧ c.toNat ≤ 57 ∨
      65 ≤ c.toNat ∧ c.toNat ≤ 90 ∨ 97 ≤ c.toNat ∧ c.toNat ≤ 122) : IsBareToken t where
  ne_empty := hne
  plain c hc := by
    refine ⟨isBlank_of_mem_ascii c (by have := h c hc; omega), ?_⟩
    rintro rfl
    exact absurd (h comma hc) (by decide)
  unquoted d hh := by
    have := h d.char (List.mem_of_mem_head? hh)
    revert this
    cases d <;> decide

private theorem toNat_of_toLower (c : Char) (h : 97 ≤ c.toLower.toNat ∧ c.toLower.toNat ≤ 122) :
    65 ≤ c.toNat ∧ c.toNat ≤ 90 ∨ 97 ≤ c.toNat ∧ c.toNat ≤ 122 := by
  unfold Char.toLower at h
  split at h
  · next hu => exact .inl ⟨hu.1, hu.2⟩
  · exact .inr h

/-- A reserved word, in any case, is a bare token. -/
theorem isBareToken_of_opensWith (c : Clause) (t : String) (h : c.opensWith t = true) :
    IsBareToken t := by
  have hf : Text.folded t = Text.folded c.word := Text.sameWord_iff.mp h
  apply isBareToken_of_forall
  · rintro rfl
    revert hf
    cases c <;> decide
  · intro x hx
    have hm : x.toLower ∈ Text.folded c.word := hf ▸ List.mem_map_of_mem hx
    have hl : (Text.folded c.word).all fun y ↦ 97 ≤ y.toNat ∧ y.toNat ≤ 122 := by
      cases c <;> decide
    have hx : 97 ≤ x.toLower.toNat ∧ x.toLower.toNat ≤ 122 := by
      simpa using List.all_eq_true.mp hl _ hm
    exact .inr (.inr (toNat_of_toLower x hx))

private theorem isBareToken_wildcard : IsBareToken wildcard where
  ne_empty := by decide
  plain c hc := by
    obtain rfl : c = '*' := List.mem_singleton.mp hc
    decide
  unquoted d := by cases d <;> decide

end Token

private theorem numeral_zeros_decimal (zeros n : Nat) :
    Text.Numeral (String.ofList (List.replicate zeros '0') ++ Text.decimal n).toList n := by
  rw [String.toList_append, String.toList_ofList]
  exact (Text.numeral_decimal n).zeros zeros

private theorem CountSpelling.isBareToken (t : String) (n : UInt64) (h : CountSpelling t n) :
    Token.IsBareToken t := by
  obtain ⟨_, sign, hs, zeros, rfl⟩ := h
  have hn := numeral_zeros_decimal zeros n.toNat
  apply Token.isBareToken_of_forall
  · intro he
    have := congrArg String.toList he
    rw [String.toList_append] at this
    exact hn.ne_nil (List.append_eq_nil_iff.mp this).2
  · intro c hc
    rw [String.toList_append, List.mem_append] at hc
    rcases hc with hc | hc
    · left
      obtain rfl | rfl : sign = "" ∨ sign = "+" := by simpa using hs
      · cases hc
      · obtain rfl : c = '+' := List.mem_singleton.mp hc
        decide
    · exact .inr (.inl (Char.isDigit_iff_toNat.mp (hn.isDigit c hc)))

private theorem CountSpelling.countToken (t : String) (n : UInt64) (h : CountSpelling t n) :
    CountToken t n := by
  obtain ⟨hlt, sign, hs, zeros, rfl⟩ := h
  have hn := numeral_zeros_decimal zeros n.toNat
  refine ⟨?_, hlt⟩
  obtain rfl | rfl : sign = "" ∨ sign = "+" := by simpa using hs
  · rw [String.empty_append]
    exact .unsigned hn
  · rw [String.toList_append]
    exact .plus hn

private theorem NameSpelling.isToken (t : String) (i : Identifier) (h : NameSpelling t i) :
    Token.IsToken t := by
  cases h with
  | quoted d h => exact .inr (.inl ⟨d, _, h, rfl⟩)
  | bare hb _ _ => exact .inl hb

private theorem NameSpelling.nameToken (t : String) (i : Identifier) (h : NameSpelling t i) :
    NameToken t i := by
  cases h with
  | quoted d h => exact .quoted d _
  | bare hb hw hr =>
    refine .bare hb.ne_empty hb.unquoted ?_ hw hr
    rintro rfl
    exact (hb.plain Token.comma List.mem_cons_self).2 rfl

/-! ### Writing and reading -/

namespace Statement

/-- Where a text has tokens, its statement is theirs. -/
theorem ofText_of_tokenize (settings : Settings) (sql : String) (tokens : List String)
    (h : tokenize sql = .ok tokens) :
    Statement.ofText settings sql =
      (Statement.ofTokens settings.leftover tokens).mapError .grammatical := by
  simp only [Statement.ofText, Selection.ofText, h, Statement.ofTokens]
  cases Selection.ofTokens settings.leftover tokens <;> rfl

/-- Where a text has no tokens, it fails as the lexer does. -/
theorem ofText_of_tokenize_error (settings : Settings) (sql : String) (e : LexError)
    (h : tokenize sql = .error e) : Statement.ofText settings sql = .error (.lexical e) := by
  simp only [Statement.ofText, Selection.ofText, h]
  rfl

/-- A text fails at the lexer, or its tokens are refused. -/
theorem ofText_eq_error (settings : Settings) (sql : String) (e : Error)
    (h : Statement.ofText settings sql = .error e) :
    (∃ l, tokenize sql = .error l ∧ e = .lexical l) ∨
      ∃ tokens p, tokenize sql = .ok tokens ∧
        Statement.ofTokens settings.leftover tokens = .error p ∧ e = .grammatical p := by
  cases ht : tokenize sql with
  | error l =>
    rw [ofText_of_tokenize_error settings sql l ht] at h
    exact .inl ⟨l, rfl, (Except.error.inj h).symm⟩
  | ok tokens =>
    rw [ofText_of_tokenize settings sql tokens ht] at h
    cases hs : Statement.ofTokens settings.leftover tokens with
    | ok _ =>
      rw [hs] at h
      cases h
    | error p =>
      rw [hs] at h
      exact .inr ⟨tokens, p, rfl, hs, (Except.error.inj h).symm⟩

private theorem ofText_of_writtenAs (settings : Settings) (statement : Statement) (text : String)
    (h : statement.WrittenAs text) : Statement.ofText settings text = .ok statement := by
  obtain ⟨front, pieces, hp, rfl, hs⟩ := h
  have ht : ∀ t ∈ pieces.map Token.Piece.token, Token.IsToken t := by
    apply hs.forall_mem
    · exact fun c t h ↦ .inl (Token.isBareToken_of_opensWith c t h)
    · exact .inr (.inr rfl)
    · exact .inl Token.isBareToken_wildcard
    · exact NameSpelling.isToken
    · exact fun t n h ↦ .inl (h.isBareToken t n)
  have hl : Token.IsLayout front pieces :=
    ⟨hp, fun p hm ↦ ht p.token (List.mem_map_of_mem hm)⟩
  rw [ofText_of_tokenize settings _ _ (tokenize_layout front pieces hl),
    ofTokens_of_statementTokens settings.leftover _ statement
      (hs.mono NameSpelling.nameToken CountSpelling.countToken)]
  rfl

/-- The query of a text is that of its statement. -/
theorem findOfText_of_ofText (settings : Settings) (statement : Statement) (text : String)
    (h : Statement.ofText settings text = .ok statement) :
    Find.ofText settings text = (Find.query settings.database statement).mapError .rendering := by
  simp only [Find.ofText, h]

/-- A statement without a condition has a query. -/
theorem query_of_condition_none (database : String) (statement : Statement)
    (h : statement.condition = none) :
    Find.query database statement = .ok (database ++ Find.body statement) := by
  simp only [Find.query, h]

/-! ### Which statements can be written -/

/-- A name has a spelling exactly if it can be written. -/
theorem exists_nameSpelling_iff (i : Identifier) : (∃ t, NameSpelling t i) ↔ i.Writable := by
  obtain ⟨name, quoted⟩ := i
  cases quoted with
  | true =>
    constructor
    · rintro ⟨_, h⟩
      cases h with
      | quoted d h => exact ⟨d, h⟩
    · rintro ⟨d, h⟩
      exact ⟨d.quote name, .quoted d h⟩
  | false =>
    constructor
    · rintro ⟨_, h⟩
      cases h with
      | bare hb hw hr => exact ⟨hb, hw, hr⟩
    · rintro ⟨hb, hw, hr⟩
      exact ⟨name, .bare hb hw hr⟩

private theorem exists_forall₂_iff (identifiers : List Identifier) :
    (∃ tokens, List.Forall₂ NameSpelling tokens identifiers) ↔
      ∀ i ∈ identifiers, i.Writable := by
  induction identifiers with
  | nil => simp
  | cons i identifiers ih =>
    rw [List.forall_mem_cons, ← ih, ← exists_nameSpelling_iff]
    constructor
    · rintro ⟨_, h⟩
      cases h with
      | cons ht h => exact ⟨⟨_, ht⟩, _, h⟩
    · rintro ⟨⟨t, ht⟩, tokens, h⟩
      exact ⟨t :: tokens, .cons ht h⟩

private theorem exists_columnTokens_iff (columns : Option Columns) :
    (∃ tokens, ColumnTokens NameSpelling tokens columns) ↔
      ∀ cs ∈ columns, ∀ i ∈ cs.toList, i.Writable := by
  cases columns with
  | none =>
    constructor
    · rintro _ _ ⟨⟩
    · intro _
      exact ⟨_, .all⟩
  | some columns =>
    constructor
    · rintro ⟨_, h⟩ _ ⟨⟩
      cases h with
      | names h => exact (exists_forall₂_iff _).mp ⟨_, h⟩
    · intro h
      obtain ⟨tokens, ht⟩ := (exists_forall₂_iff _).mpr (h columns rfl)
      exact ⟨_, .names ht⟩

private theorem exists_clauseTokens_iff (c : Clause) (count : Option UInt64) :
    (∃ tokens, ClauseTokens CountSpelling c tokens count) ↔ ∀ n ∈ count, FitsSigned n := by
  cases count with
  | none =>
    constructor
    · rintro _ _ ⟨⟩
    · intro _
      exact ⟨_, .absent⟩
  | some n =>
    constructor
    · rintro ⟨_, h⟩ _ ⟨⟩
      cases h with
      | present _ ht => exact ht.1
    · intro h
      have ht : CountSpelling _ n := ⟨h n rfl, "", List.mem_cons_self, 0, rfl⟩
      exact ⟨_, .present c.opensWith_word ht⟩

private theorem exists_statementTokens_iff (statement : Statement) :
    (∃ tokens, StatementTokens NameSpelling CountSpelling tokens statement) ↔
      statement.Writable := by
  constructor
  · rintro ⟨_, _, _, _, _, _, _, _, _, hcs, _, ht, ho, hl, hcond⟩
    exact ⟨hcond, (exists_nameSpelling_iff _).mp ⟨_, ht⟩, (exists_columnTokens_iff _).mp ⟨_, hcs⟩,
      (exists_clauseTokens_iff .offset _).mp ⟨_, ho⟩, (exists_clauseTokens_iff .limit _).mp ⟨_, hl⟩⟩
  · intro h
    obtain ⟨table, ht⟩ := (exists_nameSpelling_iff _).mpr h.table
    obtain ⟨columns, hcs⟩ := (exists_columnTokens_iff _).mpr h.columns
    obtain ⟨offset, ho⟩ := (exists_clauseTokens_iff .offset _).mpr h.offset
    obtain ⟨limit, hl⟩ := (exists_clauseTokens_iff .limit _).mpr h.limit
    exact ⟨_, _, columns, _, table, offset, limit, rfl, Clause.opensWith_word .select, hcs,
      Clause.opensWith_word .source, ht, ho, hl, h.condition⟩

-- One blank behind each token keeps any tokens apart.
private theorem isSpaced_single (tokens : List String) :
    Token.IsSpaced "" (tokens.map fun t ↦ ⟨t, " "⟩) where
  front_blank := by simp [Text.IsBlank]
  gap_blank := by
    intro p hp
    obtain ⟨t, _, rfl⟩ := List.mem_map.mp hp
    intro c (hc : c ∈ " ".toList)
    obtain rfl : c = ' ' := List.mem_singleton.mp hc
    decide
  apart := by
    rw [List.isChain_map]
    apply List.Pairwise.isChain
    apply List.pairwise_of_forall
    intro t u _ _
    change " " ≠ ""
    decide

/-- The statements that have a text are those that can be written. -/
theorem writable_iff_exists_writtenAs (statement : Statement) :
    statement.Writable ↔ ∃ text, statement.WrittenAs text := by
  rw [← exists_statementTokens_iff]
  constructor
  · rintro ⟨tokens, h⟩
    refine ⟨_, "", _, isSpaced_single tokens, rfl, ?_⟩
    rw [List.map_map]
    exact (List.map_id tokens).symm ▸ h
  · rintro ⟨_, _, pieces, _, _, h⟩
    exact ⟨_, h⟩

/-- Reading undoes writing: the statements that can be written are read, under any settings, from
each text that is a way of writing them, and every such text gives the query of the statement. -/
theorem ofText_of_any_spelling (statement : Statement) :
    (statement.Writable ↔ ∃ text, statement.WrittenAs text) ∧
    ∀ (settings : Settings) (text : String), statement.WrittenAs text →
      Statement.ofText settings text = .ok statement ∧
      (∃ query, Find.query settings.database statement = .ok query ∧
        Find.ofText settings text = .ok query) ∧
      ∀ other, statement.WrittenAs other →
        Find.ofText settings other = Find.ofText settings text := by
  refine ⟨writable_iff_exists_writtenAs statement, ?_⟩
  intro settings text h
  have hw := (writable_iff_exists_writtenAs statement).mpr ⟨text, h⟩
  have hquery := query_of_condition_none settings.database statement hw.condition
  have hfind (other : String) (h : statement.WrittenAs other) :
      Find.ofText settings other = .ok (settings.database ++ Find.body statement) := by
    rw [findOfText_of_ofText settings statement other (ofText_of_writtenAs _ _ other h), hquery]
    rfl
  refine ⟨ofText_of_writtenAs settings statement text h, ⟨_, hquery, hfind text h⟩, ?_⟩
  intro other ho
  rw [hfind other ho, hfind text h]

end Statement
end SelectFind
