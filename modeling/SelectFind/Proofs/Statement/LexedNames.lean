import SelectFind.Proofs.Statement.Failure
import SelectFind.Proofs.Statement.Respelling
import SelectFind.Proofs.Statement.Written

/-!
# Names among the tokens of a text

The lexer closes a quoted token by a scan that knows escapes, while the reader of a name looks at
the first and the last character only. Still the two agree: a token of a text that starts with a
delimiter is the name between its ends, and any other token is a bare name unless it is a mark or a
reserved word. So a text is never refused for a name that is empty or not closed.
-/

namespace SelectFind

/-- How a token is read as a name: its first character tells whether it is quoted, and only marks
and reserved words are refused. -/
structure NameLaw (t : String) : Prop where
  quoted : ∀ d : Delimiter, t.toList.head? = some d.char →
    ∃ name, t = d.quote name ∧ Identifier.ofToken t = .ok ⟨name, true⟩
  bare : (∀ d : Delimiter, t.toList.head? ≠ some d.char) → t ≠ Token.separator →
    t ≠ Token.wildcard → isReserved t = false → Identifier.ofToken t = .ok ⟨t, false⟩
  refused : ∀ fault, Identifier.ofToken t = .error fault ↔
    fault = .punctuation ∧ (t = Token.separator ∨ t = Token.wildcard) ∨
      fault = .reserved ∧ isReserved t = true

/-! ### The tokens of a text -/

private theorem Identifier.ofToken_of_mark (t : String)
    (h : t = Token.separator ∨ t = Token.wildcard) :
    Identifier.ofToken t = .error .punctuation := by
  rcases h with rfl | rfl <;> decide

private theorem Identifier.ofToken_of_isReserved (t : String) (h : isReserved t = true) :
    Identifier.ofToken t = .error .reserved := by
  obtain ⟨c, hc⟩ := isReserved_iff.mp h
  exact Clause.ofToken_of_opensWith hc

private theorem Token.IsToken.eq_quote {t : String} (h : Token.IsToken t) (d : Delimiter)
    (hd : t.toList.head? = some d.char) : ∃ name, t = d.quote name := by
  rcases h with hb | ⟨e, name, _, rfl⟩ | rfl
  · exact absurd hd (hb.unquoted d)
  · rw [Delimiter.toList_quote, List.head?_cons, Option.some.injEq] at hd
    obtain rfl := Delimiter.char_injective hd
    exact ⟨name, rfl⟩
  · rw [Token.toList_separator, List.head?_cons, Option.some.injEq] at hd
    exact absurd hd.symm (Token.isBare_iff _ |>.mp (Token.isBare_char d)).2

private theorem Token.IsToken.ofToken_quoted {t : String} (h : Token.IsToken t) (d : Delimiter)
    (hd : t.toList.head? = some d.char) :
    ∃ name, t = d.quote name ∧ Identifier.ofToken t = .ok ⟨name, true⟩ := by
  obtain ⟨name, rfl⟩ := h.eq_quote d hd
  exact ⟨name, rfl, (Identifier.ofToken_eq_ok_iff _ _).mpr (.quoted d name)⟩

private theorem Token.IsToken.ofToken_bare {t : String} (h : Token.IsToken t)
    (hd : ∀ d : Delimiter, t.toList.head? ≠ some d.char) (hs : t ≠ Token.separator)
    (hw : t ≠ Token.wildcard) (hr : isReserved t = false) :
    Identifier.ofToken t = .ok ⟨t, false⟩ :=
  (Identifier.ofToken_eq_ok_iff _ _).mpr (.bare (h.ne_empty t) hd hs hw hr)

private theorem Token.IsToken.ofToken_eq_error_iff {t : String} (h : Token.IsToken t)
    (fault : NameFault) : Identifier.ofToken t = .error fault ↔
      fault = .punctuation ∧ (t = Token.separator ∨ t = Token.wildcard) ∨
        fault = .reserved ∧ isReserved t = true := by
  constructor
  · intro hf
    by_cases hm : t = Token.separator ∨ t = Token.wildcard
    · rw [Identifier.ofToken_of_mark t hm] at hf
      exact .inl ⟨(Except.error.inj hf).symm, hm⟩
    by_cases hr : isReserved t = true
    · rw [Identifier.ofToken_of_isReserved t hr] at hf
      exact .inr ⟨(Except.error.inj hf).symm, hr⟩
    -- Neither a mark nor reserved: the token is a name, quoted or bare.
    by_cases hd : ∃ d : Delimiter, t.toList.head? = some d.char
    · obtain ⟨d, hd⟩ := hd
      obtain ⟨name, _, hok⟩ := h.ofToken_quoted d hd
      rw [hok] at hf
      cases hf
    · rw [not_or] at hm
      rw [h.ofToken_bare (not_exists.mp hd) hm.1 hm.2 (Bool.not_eq_true _ ▸ hr)] at hf
      cases hf
  · rintro (⟨rfl, hm⟩ | ⟨rfl, hr⟩)
    · exact Identifier.ofToken_of_mark t hm
    · exact Identifier.ofToken_of_isReserved t hr

private theorem Token.IsToken.nameLaw {t : String} (h : Token.IsToken t) : NameLaw t :=
  ⟨h.ofToken_quoted, h.ofToken_bare, h.ofToken_eq_error_iff⟩

/-! ### The name at which a text is refused -/

namespace Statement

private theorem ofTokens_eq_error_cases (leftover : Leftover) (tokens : List String)
    (e : ParseError) (h : Statement.ofTokens leftover tokens = .error e) :
    ∃ passed rest, tokens = passed ++ rest ∧ e.index = passed.length ∧
      (e.fault.Stops rest ∨ ∃ found ∈ rest.head?, e.fault = .leftover found) := by
  rw [ofTokens_eq] at h
  obtain ⟨passed, rest, rfl, ⟨e', hi, hs, hr⟩ | ⟨statement, _, hr⟩⟩ :=
    Parser.runFrom_select_cases 0 tokens
  · rw [hr leftover] at h
    obtain rfl : e' = e := Except.error.inj h
    exact ⟨passed, rest, rfl, by rw [hi, Nat.zero_add], .inl hs⟩
  · rw [hr leftover, Nat.zero_add] at h
    cases rest with
    | nil => cases h
    | cons found rest =>
      cases leftover with
      | ignore => cases h
      | reject =>
        obtain rfl := Except.error.inj h
        exact ⟨passed, found :: rest, rfl, rfl, .inr ⟨found, rfl, rfl⟩⟩

private theorem ofTokens_name_error (leftover : Leftover) (tokens : List String) (index : Nat)
    (found : String) (fault : NameFault)
    (h : Statement.ofTokens leftover tokens = .error ⟨index, .name found fault⟩) :
    tokens[index]? = some found ∧ Identifier.ofToken found = .error fault := by
  obtain ⟨passed, rest, rfl, hi, hs | ⟨_, _, hl⟩⟩ := ofTokens_eq_error_cases leftover tokens _ h
  · obtain rfl : index = passed.length := hi
    cases hs with
    | ofName hn =>
      cases hn with
      | name _ _ rest hf => exact ⟨by simp, hf⟩
  · cases hl

/-- Every token of a text is read as a name by its first character, so whatever is done with
leftover tokens a text is refused for a name only at a mark or a reserved word. -/
theorem ofText_name_refused (sql : String) :
    (∀ tokens, tokenize sql = .ok tokens → ∀ t ∈ tokens, NameLaw t) ∧
      ∀ settings index found fault,
        Statement.ofText settings sql = .error (.grammatical ⟨index, .name found fault⟩) →
        fault ≠ .empty ∧ fault ≠ .unclosed ∧
        ∃ tokens, tokenize sql = .ok tokens ∧ tokens[index]? = some found ∧
          (fault = .punctuation ∧ (found = Token.separator ∨ found = Token.wildcard) ∨
            fault = .reserved ∧ isReserved found = true) := by
  have hlaw : ∀ tokens, tokenize sql = .ok tokens → ∀ t ∈ tokens, NameLaw t :=
    fun tokens ht t hm ↦ (isToken_of_mem_tokenize sql tokens ht t hm).nameLaw
  refine ⟨hlaw, ?_⟩
  intro settings index found fault h
  obtain ⟨_, _, he⟩ | ⟨tokens, e, ht, hp, he⟩ := ofText_eq_error settings sql _ h
  · cases he
  obtain rfl := Error.grammatical.inj he
  obtain ⟨hi, hf⟩ := ofTokens_name_error settings.leftover tokens index found fault hp
  have hcases := ((hlaw tokens ht found (List.mem_of_getElem? hi)).refused fault).mp hf
  refine ⟨?_, ?_, tokens, ht, hi, hcases⟩ <;>
    · rintro rfl
      simp at hcases

/-- A quoted column with an escaped delimiter in it, and an asterisk in place of the table. -/
theorem ofText_name_refused_wildcard :
    NameLaw "'it\\'s'" ∧
      Statement.ofText .standard "select 'it\\'s' from *" =
        .error (.grammatical ⟨3, .name "*" .punctuation⟩) ∧
      ∃ tokens, tokenize "select 'it\\'s' from *" = .ok tokens ∧ tokens[3]? = some "*" := by
  have ht : tokenize "select 'it\\'s' from *" = .ok ["select", "'it\\'s'", "from", "*"] := by
    decide +kernel
  have he : Statement.ofText .standard "select 'it\\'s' from *" =
      .error (.grammatical ⟨3, .name "*" .punctuation⟩) := by
    decide +kernel
  obtain ⟨hlaw, hrefused⟩ := ofText_name_refused "select 'it\\'s' from *"
  obtain ⟨_, _, tokens, htokens, hi, _⟩ := hrefused _ _ _ _ he
  exact ⟨hlaw _ ht _ (by decide), he, tokens, htokens, hi⟩

end Statement
end SelectFind
