import SelectFind.Proofs.Statement.Recognizer
import SelectFind.Proofs.Text.Numeral
import SelectFind.Proofs.Token.Enclosed
import Mathlib.Data.List.Forall2

/-!
# The grammar of statements

Rows of tokens are related to what they spell, from single names and counts up to whole statements:

    SELECT columns FROM table [OFFSET count] [LIMIT count]

Each parser recognizes its part of the grammar. Tokens are arbitrary texts here, also such as no
text is divided into.
-/

namespace SelectFind

/-- A token spells a name: any text between two equal delimiters, or a token that starts with no
delimiter and is neither empty, the comma, the asterisk nor a reserved word. -/
inductive NameToken : String → Identifier → Prop
  | quoted (d : Delimiter) (text : String) : NameToken (d.quote text) ⟨text, true⟩
  | bare {t : String} (hne : t ≠ "") (hd : ∀ d : Delimiter, t.toList.head? ≠ some d.char)
      (hs : t ≠ Token.separator) (hw : t ≠ Token.wildcard) (hr : isReserved t = false) :
      NameToken t ⟨t, false⟩

/-- The count fits a signed word of 64 bits. -/
def FitsSigned (n : UInt64) : Prop := (n.toNat : Int) ≤ Int64.maxValue.toInt

/-- A token spells a count: a numeral with at most one sign in front, and a value that is not
negative and fits a signed word of 64 bits. -/
def CountToken (t : String) (n : UInt64) : Prop :=
  Text.SignedNumeral t.toList n.toNat ∧ FitsSigned n

/-- Tokens spell the columns: the asterisk all of them, or names with a comma between each two. -/
inductive ColumnTokens (name : String → Identifier → Prop) :
    List String → Option Columns → Prop
  | all : ColumnTokens name [Token.wildcard] none
  | names {tokens : List String} {columns : Columns}
      (h : List.Forall₂ name tokens columns.toList) :
      ColumnTokens name (tokens.intersperse Token.separator) (some columns)

/-- Tokens spell the count of a clause that may be absent. -/
inductive ClauseTokens (count : String → UInt64 → Prop) (c : Clause) :
    List String → Option UInt64 → Prop
  | absent : ClauseTokens count c [] none
  | present {word t : String} {n : UInt64} (hw : c.opensWith word = true) (ht : count t n) :
      ClauseTokens count c [word, t] (some n)

/-- Tokens spell a statement, whose names and counts are spelled in the given ways. -/
def StatementTokens (name : String → Identifier → Prop) (count : String → UInt64 → Prop)
    (tokens : List String) (statement : Statement) : Prop :=
  ∃ (select : String) (columns : List String) (source table : String) (offset limit : List String),
    tokens = [select] ++ columns ++ [source, table] ++ offset ++ limit ∧
    Clause.select.opensWith select = true ∧ ColumnTokens name columns statement.columns ∧
    Clause.source.opensWith source = true ∧ name table statement.table ∧
    ClauseTokens count .offset offset statement.offset ∧
    ClauseTokens count .limit limit statement.limit ∧ statement.condition = none

/-- With a comma between each two names, every name but the first has one in front. -/
theorem intersperse_separator (t : String) (names : List String) :
    (t :: names).intersperse Token.separator =
      t :: names.flatMap fun u ↦ [Token.separator, u] := by
  induction names generalizing t with
  | nil => rfl
  | cons u names ih => rw [List.intersperse_cons_cons, ih u]; rfl

/-! ### Spellings of names and counts -/

section Spelling

variable {name name' : String → Identifier → Prop} {count count' : String → UInt64 → Prop}
  {tokens : List String}

private theorem ColumnTokens.mono {columns : Option Columns} (h : ColumnTokens name tokens columns)
    (hn : ∀ t i, name t i → name' t i) : ColumnTokens name' tokens columns := by
  cases h with
  | all => exact .all
  | names h => exact .names (h.imp hn)

private theorem ClauseTokens.mono {c : Clause} {n : Option UInt64}
    (h : ClauseTokens count c tokens n) (hc : ∀ t n, count t n → count' t n) :
    ClauseTokens count' c tokens n := by
  cases h with
  | absent => exact .absent
  | present hw ht => exact .present hw (hc _ _ ht)

/-- No token spells a count that is absent. -/
theorem ClauseTokens.eq_nil {c : Clause} {n : Option UInt64} (h : ClauseTokens count c tokens n)
    (hn : n = none) : tokens = [] := by
  cases h with
  | absent => rfl
  | present _ _ => cases hn

/-- Names and counts may be spelled in more ways. -/
theorem StatementTokens.mono {statement : Statement}
    (h : StatementTokens name count tokens statement) (hn : ∀ t i, name t i → name' t i)
    (hc : ∀ t n, count t n → count' t n) : StatementTokens name' count' tokens statement := by
  obtain ⟨word, columns, source, table, offset, limit, rfl, hs, hcs, hf, ht, ho, hl, hcond⟩ := h
  exact ⟨word, columns, source, table, offset, limit, rfl, hs, hcs.mono hn, hf, hn _ _ ht,
    ho.mono hc, hl.mono hc, hcond⟩

private theorem forall_mem_of_forall₂ {identifiers : List Identifier} (p : String → Prop)
    (h : List.Forall₂ name tokens identifiers) (hname : ∀ t i, name t i → p t) :
    ∀ t ∈ tokens, p t := by
  induction h with
  | nil => simp
  | cons ht _ ih => exact List.forall_mem_cons.mpr ⟨hname _ _ ht, ih⟩

private theorem ColumnTokens.forall_mem {columns : Option Columns}
    (h : ColumnTokens name tokens columns) (p : String → Prop) (hseparator : p Token.separator)
    (hwildcard : p Token.wildcard) (hname : ∀ t i, name t i → p t) : ∀ t ∈ tokens, p t := by
  cases h with
  | all => simpa using hwildcard
  | @names names columns h =>
    have hp := forall_mem_of_forall₂ p h hname
    cases names with
    | nil => simp
    | cons t names =>
      rw [intersperse_separator]
      intro u hu
      rcases List.mem_cons.mp hu with rfl | hu
      · exact hp u List.mem_cons_self
      · obtain ⟨v, hv, hu⟩ := List.mem_flatMap.mp hu
        rcases List.mem_cons.mp hu with rfl | hu
        · exact hseparator
        · obtain rfl := List.mem_singleton.mp hu
          exact hp u (List.mem_cons_of_mem t hv)

private theorem ClauseTokens.forall_mem {c : Clause} {n : Option UInt64}
    (h : ClauseTokens count c tokens n) (p : String → Prop)
    (hword : ∀ (c : Clause) (t : String), c.opensWith t = true → p t)
    (hcount : ∀ t n, count t n → p t) : ∀ t ∈ tokens, p t := by
  cases h with
  | absent => simp
  | present hw ht => simp [hword c _ hw, hcount _ _ ht]

/-- Each token of a statement is a reserved word, the comma, the asterisk, a name or a count. -/
theorem StatementTokens.forall_mem {statement : Statement}
    (h : StatementTokens name count tokens statement) (p : String → Prop)
    (hword : ∀ (c : Clause) (t : String), c.opensWith t = true → p t)
    (hseparator : p Token.separator) (hwildcard : p Token.wildcard)
    (hname : ∀ t i, name t i → p t) (hcount : ∀ t n, count t n → p t) : ∀ t ∈ tokens, p t := by
  obtain ⟨word, columns, source, table, offset, limit, rfl, hs, hcs, hf, ht, ho, hl, _⟩ := h
  have hcolumns := hcs.forall_mem p hseparator hwildcard hname
  have hoffset := ho.forall_mem p hword hcount
  have hlimit := hl.forall_mem p hword hcount
  intro t hm
  simp only [List.mem_append, List.mem_cons, List.not_mem_nil, or_false] at hm
  rcases hm with (((rfl | hm) | rfl | rfl) | hm) | hm
  · exact hword .select t hs
  · exact hcolumns t hm
  · exact hword .source t hf
  · exact hname t _ ht
  · exact hoffset t hm
  · exact hlimit t hm

end Spelling

/-! ### Readers of one token -/

/-- Reading a name accepts exactly the name tokens. -/
theorem Identifier.ofToken_eq_ok_iff (t : String) (i : Identifier) :
    Identifier.ofToken t = .ok i ↔ NameToken t i := by
  constructor
  · intro h
    unfold Identifier.ofToken at h
    split at h
    · cases h
    · next c cs hc =>
      split at h
      · next d hd =>
        split at h
        · next hl =>
          cases h
          have ht : t = d.quote (String.ofList cs.dropLast) := by
            apply String.toList_injective
            rw [hc, Delimiter.toList_quote, String.toList_ofList,
              Delimiter.ofChar?_eq_some_iff.mp hd, List.dropLast_append_getLast? _ hl]
          nth_rewrite 1 [ht]
          exact .quoted d _
        · cases h
      · next hd =>
        split at h
        · cases h
        · next hp =>
          split at h
          · cases h
          · next hr =>
            cases h
            simp only [Bool.or_eq_true, beq_iff_eq, not_or] at hp
            refine .bare ?_ ?_ hp.1 hp.2 (by simpa using hr)
            · rintro rfl; cases hc
            · intro d he
              rw [hc, List.head?_cons, Option.some.injEq] at he
              exact Delimiter.ofChar?_eq_none_iff.mp hd d he
  · intro h
    cases h with
    | quoted d text => simp [Identifier.ofToken]
    | bare hne hd hs hw hr =>
      obtain ⟨c, cs, hc⟩ : ∃ c cs, t.toList = c :: cs :=
        List.exists_cons_of_ne_nil fun he ↦ hne (String.toList_eq_nil_iff.mp he)
      have hn : Delimiter.ofChar? c = none := by
        apply Delimiter.ofChar?_eq_none_iff.mpr
        intro d he
        exact hd d (by rw [hc, he]; rfl)
      simp [Identifier.ofToken, hc, hn, hs, hw, hr]

/-- Reading a count accepts exactly the count tokens. -/
theorem Parser.countOf_eq_ok_iff (c : Clause) (t : String) (n : UInt64) :
    Parser.countOf c t = .ok n ↔ CountToken t n := by
  constructor
  · intro h
    unfold Parser.countOf at h
    split at h
    · cases h
    · cases h
    · next m hm =>
      cases h
      obtain ⟨hs, _, hle⟩ := (Text.int64?_eq_some_iff t _).mp hm
      have hn : (UInt64.ofNat m).toNat = m := by
        rw [Int64.toInt_maxValue, Int.ofNat_eq_natCast] at hle
        rw [UInt64.toNat_ofNat']
        omega
      unfold CountToken FitsSigned
      rw [hn]
      exact ⟨hs, hle⟩
  · rintro ⟨hs, hle⟩
    have hi : Text.int64? t = some (Int.ofNat n.toNat) := by
      refine (Text.int64?_eq_some_iff t _).mpr ⟨hs, ?_, hle⟩
      rw [Int64.toInt_minValue, Int.ofNat_eq_natCast]
      omega
    simp [Parser.countOf, hi]

/-- The digit zero spells the count zero. -/
theorem countToken_zero : CountToken "0" 0 := (Parser.countOf_eq_ok_iff .offset "0" 0).mp rfl

private theorem Clause.opensWith_injective (c e : Clause) (t : String) (hc : c.opensWith t = true)
    (he : e.opensWith t = true) : c = e := by
  have hw : Text.folded c.word = Text.folded e.word :=
    (Text.sameWord_iff.mp hc).symm.trans (Text.sameWord_iff.mp he)
  revert hw
  cases c <;> cases e <;> decide

/-- A word that opens a clause opens no other. -/
theorem Clause.opensWith_eq_false (c e : Clause) (t : String) (hc : c.opensWith t = true)
    (hne : c ≠ e) : e.opensWith t = false := by
  by_contra h
  exact hne (opensWith_injective c e t hc (by simpa using h))

/-- The word of a clause opens it. -/
theorem Clause.opensWith_word (c : Clause) : c.opensWith c.word = true := Text.sameWord_refl c.word

/-- The comma opens no clause. -/
theorem Clause.opensWith_separator (c : Clause) : c.opensWith Token.separator = false := by
  cases c <;> decide

namespace Parser

/-! ### Single tokens -/

/-- The parser of a clause's word recognizes the words that open it. -/
theorem recognizes_clause (c : Clause) :
    (clause c).Recognizes (.single fun t _ ↦ c.opensWith t = true) := by
  apply (recognizes_accept _ _ ⟨c.word, (), ?_⟩).mono
  · rintro tokens a ⟨t, rfl, h⟩
    refine ⟨t, rfl, ?_⟩
    by_contra hn
    simp [hn] at h
  · rw [if_pos c.opensWith_word]

/-- The parser of a name recognizes the name tokens. -/
theorem recognizes_name (expected : Expected) :
    (name expected).Recognizes (.single NameToken) := by
  apply recognizes_token
  · exact ⟨_, _, .quoted .double ""⟩
  · intro t i h
    cases ho : Identifier.ofToken t with
    | error fault => simp [ho, Except.mapError] at h
    | ok j =>
      rw [ho] at h
      cases h
      exact (Identifier.ofToken_eq_ok_iff t i).mp ho
  · rintro t fault h ⟨expected, rfl⟩
    cases ho : Identifier.ofToken t <;> simp [ho, Except.mapError] at h

/-- The parser of a count recognizes the count tokens. -/
theorem recognizes_count (c : Clause) : (count c).Recognizes (.single CountToken) := by
  apply recognizes_token
  · exact ⟨"0", 0, countToken_zero⟩
  · intro t n h
    exact (countOf_eq_ok_iff c t n).mp h
  · rintro t fault h ⟨expected, rfl⟩
    unfold countOf at h
    split at h <;> cases h

/-- The word of a clause is passed. -/
theorem runFrom_clause_ok (c : Clause) (position : Nat) (t : String) (tokens : List String)
    (h : c.opensWith t = true) :
    (clause c).runFrom ⟨position, t :: tokens⟩ = (.ok (), ⟨position + 1, tokens⟩) :=
  runFrom_token_ok _ _ position t tokens () (by simp [h])

/-- A name is passed. -/
theorem runFrom_name_ok (expected : Expected) (position : Nat) (t : String)
    (tokens : List String) (i : Identifier) (h : NameToken t i) :
    (name expected).runFrom ⟨position, t :: tokens⟩ = (.ok i, ⟨position + 1, tokens⟩) :=
  runFrom_token_ok _ _ position t tokens i
    (by rw [(Identifier.ofToken_eq_ok_iff t i).mpr h]; rfl)

/-- A token that is no name stays ahead. -/
theorem runFrom_name_error (expected : Expected) (position : Nat) (t : String)
    (tokens : List String) (fault : NameFault) (h : Identifier.ofToken t = .error fault) :
    (name expected).runFrom ⟨position, t :: tokens⟩ =
      (.error ⟨position, .name t fault⟩, ⟨position, t :: tokens⟩) :=
  runFrom_token_error _ _ position t tokens _ (by rw [h]; rfl)

/-- A count is passed. -/
theorem runFrom_count_ok (c : Clause) (position : Nat) (t : String) (tokens : List String)
    (n : UInt64) (h : CountToken t n) :
    (count c).runFrom ⟨position, t :: tokens⟩ = (.ok n, ⟨position + 1, tokens⟩) :=
  runFrom_token_ok _ _ position t tokens n ((countOf_eq_ok_iff c t n).mpr h)

end Parser
end SelectFind
