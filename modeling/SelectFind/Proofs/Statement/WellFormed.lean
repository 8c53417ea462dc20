import SelectFind.Proofs.Statement.Names
import SelectFind.Proofs.Token.Escape

/-!
# What is read is well-formed

A statement that is read from a text obeys rules that no step enforces alone. The lexer keeps blanks
and commas out of bare names and closes every quoted one; the parser refuses marks and reserved
words as bare names and takes counts from signed words. Neither the settings nor tokens behind the
statement change this.
-/

namespace SelectFind

/-- A token of a text stands in it. -/
theorem infix_of_mem_tokenize (s : String) (ts : List String) (h : tokenize s = .ok ts)
    (t : String) (ht : t ∈ ts) : t.toList <:+: s.toList := by
  obtain ⟨front, pieces, _, rfl, rfl⟩ := exists_isLayout_of_tokenize s ts h
  obtain ⟨p, hp, rfl⟩ := List.mem_map.mp ht
  obtain ⟨before, behind, rfl⟩ := List.append_of_mem hp
  refine ⟨(Token.layout front before).toList, (Token.layout p.gap behind).toList, ?_⟩
  simp [Token.layout, Token.Piece.text, String.toList_join]

private theorem tokenize_quote (d : Delimiter) (name : String) (h : d.Encloses name.toList) :
    tokenize (d.quote name) = .ok [d.quote name] := by
  have hl : Token.IsLayout "" [⟨d.quote name, ""⟩] :=
    { front_blank := by simp [Text.IsBlank]
      gap_blank := by simp [Text.IsBlank]
      apart := .singleton _
      isToken := by simpa using .inr (.inl ⟨d, name, h, rfl⟩) }
  have ht := tokenize_layout "" _ hl
  simpa [Token.layout, Token.Piece.text] using ht

namespace Identifier

/-- The name is one that may stand without delimiters: it has a character, holds no blank and no
comma, starts with no delimiter, and is neither the asterisk nor a reserved word. -/
structure IsBare (i : Identifier) : Prop where
  token : Token.IsBareToken i.name
  ne_wildcard : i.name ≠ Token.wildcard
  not_reserved : ∀ c : Clause, c.opensWith i.name = false

/-- The name stands in the text between delimiters: with them it is one token, as it does not hold
the delimiter unescaped and leaves no escape pending, and this is a token of the text. -/
structure IsQuotedIn (i : Identifier) (d : Delimiter) (sql : String) : Prop where
  not_hasUnescaped : ¬Token.HasUnescaped d.char i.name.toList
  not_escapePending : Token.escapePending false i.name.toList = false
  token : tokenize (d.quote i.name) = .ok [d.quote i.name]
  occurs : ∃ tokens, tokenize sql = .ok tokens ∧ d.quote i.name ∈ tokens
  isInfix : (d.quote i.name).toList <:+: sql.toList

end Identifier

private theorem NameSpelling.isQuotedIn (t : String) (i : Identifier) (h : NameSpelling t i)
    (hq : i.quoted = true) (sql : String) (tokens : List String) (ht : tokenize sql = .ok tokens)
    (hm : t ∈ tokens) : ∃ d, i.IsQuotedIn d sql := by
  cases h with
  | bare _ _ _ => cases hq
  | @quoted d name h =>
    obtain ⟨hn, hp⟩ := (Delimiter.encloses_iff d name.toList).mp h
    exact ⟨d, hn, hp, tokenize_quote d name h, ⟨tokens, ht, hm⟩,
      infix_of_mem_tokenize sql tokens ht _ hm⟩

private theorem NameSpelling.isBare (t : String) (i : Identifier) (h : NameSpelling t i)
    (hq : i.quoted = false) : i.IsBare := by
  cases h with
  | quoted _ _ => cases hq
  | bare hb hw hr =>
    refine ⟨hb, hw, ?_⟩
    simpa [isReserved, Clause.mem_all] using hr

namespace Statement

/-- What holds of every statement that is read from the text. -/
structure WellFormedIn (statement : Statement) (sql : String) : Prop where
  condition : statement.condition = none
  columns : ∀ columns ∈ statement.columns, columns.toList ≠ []
  bare : ∀ i ∈ statement.names, i.quoted = false → i.IsBare
  quoted : ∀ i ∈ statement.names, i.quoted = true → ∃ d, i.IsQuotedIn d sql
  offset : ∀ n ∈ statement.offset, FitsSigned n
  limit : ∀ n ∈ statement.limit, FitsSigned n

/-- Every statement that is read from a text is well-formed, whatever the settings. -/
theorem wellFormedIn_of_ofText (settings : Settings) (sql : String) (statement : Statement)
    (h : Statement.ofText settings sql = .ok statement) : statement.WellFormedIn sql := by
  have hw := writable_of_ofText settings sql statement h
  have hnames := exists_nameSpelling_of_ofText settings sql statement h
  refine ⟨hw.condition, ?_, ?_, ?_, hw.offset, hw.limit⟩
  · intro columns _
    exact List.cons_ne_nil _ _
  · intro i hi hq
    obtain ⟨_, _, t, _, hs⟩ := hnames i hi
    exact hs.isBare t i hq
  · intro i hi hq
    obtain ⟨tokens, ht, t, hm, hs⟩ := hnames i hi
    exact hs.isQuotedIn t i hq sql tokens ht hm

/-- A quoted reserved word, an escaped delimiter, the largest count and tokens that are ignored. -/
theorem wellFormedIn_of_ofText_ignored_tokens :
    ∃ statement, Statement.ofText ⟨"db", .ignore⟩
        "select `a\\`, b`, 'from', c\"d from \"t 1\" offset 9223372036854775807 \"x y\" ," =
        .ok statement ∧
      statement.WellFormedIn
        "select `a\\`, b`, 'from', c\"d from \"t 1\" offset 9223372036854775807 \"x y\" ," := by
  let statement : Statement :=
    { table := ⟨"t 1", true⟩
      columns := some ⟨⟨"a\\`, b", true⟩, [⟨"from", true⟩, ⟨"c\"d", false⟩]⟩
      condition := none
      offset := some 9223372036854775807
      limit := none }
  have h : Statement.ofText ⟨"db", .ignore⟩
      "select `a\\`, b`, 'from', c\"d from \"t 1\" offset 9223372036854775807 \"x y\" ," =
      .ok statement := by
    decide +kernel
  exact ⟨statement, h, wellFormedIn_of_ofText _ _ _ h⟩

end Statement
end SelectFind
