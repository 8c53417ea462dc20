import SelectFind.Proofs.Statement.Acceptance

/-!
# Where a row of tokens stops being a statement

A row of tokens is viable if further tokens can complete it to a statement. When no token may be
left over, a failure is found at the first token at which the row stops being viable, or at the end
of the tokens if the whole row is viable. The failure is final: it depends on no token behind that
one.
-/

namespace SelectFind

namespace Statement

/-- Further tokens can complete the row to a statement. -/
def Viable (tokens : List String) : Prop :=
  ∃ more statement, Statement.ofTokens .reject (tokens ++ more) = .ok statement

/-- A failure has passed a viable row, whose length is its index; it is the end of the tokens
exactly if none is ahead, and any row with the same tokens up to the one in view fails with it. -/
theorem ofTokens_reject_eq_error (tokens : List String) (e : ParseError)
    (h : Statement.ofTokens .reject tokens = .error e) :
    ∃ passed rest, tokens = passed ++ rest ∧ e.index = passed.length ∧ Viable passed ∧
      (e.fault.IsEnded ↔ rest = []) ∧
      ∀ rest' : List String, rest'.head? = rest.head? →
        Statement.ofTokens .reject (passed ++ rest') = .error e := by
  obtain ⟨passed, rest, r, rfl, ho, hr⟩ :=
    (Parser.recognizes_select .reject).recognizesAt 0 tokens
  rw [ofTokens_eq, hr rest rfl] at h
  cases r with
  | ok selection => cases h
  | error e' =>
    obtain rfl : e' = e := Except.error.inj h
    obtain ⟨⟨more, selection, hs⟩, hi, he⟩ := ho
    refine ⟨passed, rest, rfl, by rw [hi, Nat.zero_add], ⟨more, selection.statement, ?_⟩, he, ?_⟩
    · exact ofTokens_of_statementTokens .reject _ _ (statementTokens_of_selectionTokens _ _ hs)
    · intro rest' hh
      rw [ofTokens_eq, hr rest' hh]
      rfl

private theorem viable_take_index (tokens : List String) (e : ParseError)
    (h : Statement.ofTokens .reject tokens = .error e) : Viable (tokens.take e.index) := by
  obtain ⟨passed, rest, rfl, hi, hv, _⟩ := ofTokens_reject_eq_error tokens e h
  rw [hi, List.take_left]
  exact hv

private theorem ended_or_final (tokens : List String) (e : ParseError)
    (h : Statement.ofTokens .reject tokens = .error e) :
    e.index = tokens.length ∧ e.fault.IsEnded ∨
      e.index < tokens.length ∧ ¬e.fault.IsEnded ∧
        ∀ more, Statement.ofTokens .reject (tokens.take (e.index + 1) ++ more) = .error e := by
  obtain ⟨passed, rest, rfl, hi, _, he, hf⟩ := ofTokens_reject_eq_error tokens e h
  rw [hi]
  cases rest with
  | nil => exact .inl ⟨by rw [List.append_nil], he.mpr rfl⟩
  | cons t rest =>
    refine .inr ⟨by simp, ?_, ?_⟩
    · intro hn
      cases he.mp hn
    · intro more
      rw [List.take_length_add_append, List.append_assoc]
      exact hf _ rfl

/-- No longer start of the row is viable than the tokens in front of a failure. -/
theorem le_index_of_viable_take (tokens : List String) (e : ParseError)
    (h : Statement.ofTokens .reject tokens = .error e) (n : Nat) (hn : n ≤ tokens.length)
    (hv : Viable (tokens.take n)) : n ≤ e.index := by
  obtain ⟨more, statement, hs⟩ := hv
  obtain ⟨hi, _⟩ | ⟨_, _, hf⟩ := ended_or_final tokens e h
  · rw [hi]
    exact hn
  · -- A start that goes further holds the token of the failure, which is then also the result of
    -- the completed row.
    by_contra hlt
    have htake : (tokens.take n).take (e.index + 1) = tokens.take (e.index + 1) := by
      rw [List.take_take, Nat.min_eq_left (by omega)]
    have hall := hf ((tokens.take n).drop (e.index + 1) ++ more)
    rw [← htake, ← List.append_assoc, List.take_append_drop, hs] at hall
    cases hall

private theorem ended_iff_incomplete (tokens : List String) :
    (∃ e, Statement.ofTokens .reject tokens = .error e ∧ e.fault.IsEnded) ↔
      (∀ statement, Statement.ofTokens .reject tokens ≠ .ok statement) ∧
        ∃ more statement, more ≠ [] ∧
          Statement.ofTokens .reject (tokens ++ more) = .ok statement := by
  constructor
  · rintro ⟨e, h, he⟩
    have hn (statement : Statement) : Statement.ofTokens .reject tokens ≠ .ok statement := by
      intro hs
      rw [h] at hs
      cases hs
    obtain ⟨hi, _⟩ | ⟨_, hne, _⟩ := ended_or_final tokens e h
    · have hv := viable_take_index tokens e h
      rw [hi, List.take_length] at hv
      obtain ⟨more, statement, hs⟩ := hv
      refine ⟨hn, more, statement, ?_, hs⟩
      rintro rfl
      rw [List.append_nil] at hs
      exact hn statement hs
    · exact absurd he hne
  · rintro ⟨hn, more, statement, _, hs⟩
    cases h : Statement.ofTokens .reject tokens with
    | ok other => exact absurd h (hn other)
    | error e =>
      have hv : Viable (tokens.take tokens.length) := by
        rw [List.take_length]
        exact ⟨more, statement, hs⟩
      have hle := le_index_of_viable_take tokens e h tokens.length (Nat.le_refl _) hv
      obtain ⟨_, he⟩ | ⟨hlt, _⟩ := ended_or_final tokens e h
      · exact ⟨e, rfl, he⟩
      · omega

/-- The index of a failure is the length of the longest viable start of the row, and the tokens up
to it decide the failure; so the end of the tokens is the fault of exactly the incomplete
statements. -/
theorem ofTokens_reject_error_longest_viable (tokens : List String) :
    (∀ e, Statement.ofTokens .reject tokens = .error e →
      Viable (tokens.take e.index) ∧
      (∀ n ≤ tokens.length, Viable (tokens.take n) → n ≤ e.index) ∧
      (e.index = tokens.length ∧ e.fault.IsEnded ∨
        e.index < tokens.length ∧ ¬e.fault.IsEnded ∧
          ∀ more, Statement.ofTokens .reject (tokens.take (e.index + 1) ++ more) = .error e)) ∧
    ((∃ e, Statement.ofTokens .reject tokens = .error e ∧ e.fault.IsEnded) ↔
      (∀ statement, Statement.ofTokens .reject tokens ≠ .ok statement) ∧
        ∃ more statement, more ≠ [] ∧
          Statement.ofTokens .reject (tokens ++ more) = .ok statement) := by
  refine ⟨?_, ended_iff_incomplete tokens⟩
  intro e h
  exact ⟨viable_take_index tokens e h, le_index_of_viable_take tokens e h,
    ended_or_final tokens e h⟩

end Statement
end SelectFind
