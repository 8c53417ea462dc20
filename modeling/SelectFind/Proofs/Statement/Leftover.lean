import SelectFind.Log
import SelectFind.Proofs.Statement.Failure
import SelectFind.Proofs.Statement.Viable

/-!
# Leftover tokens that are ignored

Whether leftover tokens are refused or ignored makes a difference only where they are refused. There
the tokens in front of them are the longest start of the row that is a statement; ignoring the rest
selects this statement, passes all tokens and tells of the rest in one warning.
-/

namespace SelectFind

namespace Selection

/-- The warnings of trying to read a statement. -/
def warnings (result : Except ParseError Selection) : List Event :=
  (resultEvents result).filter (Event.isSeenAt .warn)

private theorem warnings_of_ignored_eq_none (selection : Selection) (h : selection.ignored = none) :
    warnings (.ok selection) = [] := by
  simp only [warnings, resultEvents, events, h]
  split <;> rfl

private theorem warnings_ignored (statement : Statement) (ignored : Ignored) :
    warnings (.ok ⟨statement, false, some ignored⟩) = [.ignored ignored] := rfl

end Selection

namespace Parser

/-- Both ways of treating leftover tokens select the same, both fail in the same way, or one refuses
what the other ignores behind a whole statement. -/
theorem select_reject_ignore_cases (tokens : List String) :
    (∃ selection cursor, selection.ignored = none ∧ ∀ leftover,
      (select leftover).runFrom (.start tokens) = (.ok selection, cursor)) ∨
    (∃ e cursor, (∀ found, e.fault ≠ .leftover found) ∧ ∀ leftover,
      (select leftover).runFrom (.start tokens) = (.error e, cursor)) ∨
    (∃ passed found rest statement, tokens = passed ++ found :: rest ∧
      StatementTokens NameToken CountToken passed statement ∧
      (select .reject).runFrom (.start tokens) =
        (.error ⟨passed.length, .leftover found⟩, ⟨passed.length, found :: rest⟩) ∧
      (select .ignore).runFrom (.start tokens) =
        (.ok ⟨statement, false, some ⟨tokens.length - passed.length, found, passed.length⟩⟩,
          ⟨tokens.length, []⟩)) := by
  obtain ⟨passed, rest, rfl, ⟨e, _, he, hr⟩ | ⟨statement, hs, hr⟩⟩ := runFrom_select_cases 0 tokens
  · exact .inr (.inl ⟨e, _, he.ne_leftover, hr⟩)
  · rw [Nat.zero_add] at hr
    cases rest with
    | nil => exact .inl ⟨_, _, rfl, hr⟩
    | cons found rest =>
      have hlength : (passed ++ found :: rest).length = passed.length + (found :: rest).length :=
        List.length_append
      refine .inr (.inr ⟨passed, found, rest, statement, rfl, hs, ?_, ?_⟩)
      · exact (hr .reject).trans (runFrom_ending_reject statement passed.length found rest)
      · rw [hlength, Nat.add_sub_cancel_left]
        exact (hr .ignore).trans (runFrom_ending_ignore statement passed.length found rest)

/-- A condition right behind the table is refused, whatever is done with leftover tokens. -/
theorem runFrom_select_condition (leftover : Leftover) (head : List String) (statement : Statement)
    (word : String) (rest : List String)
    (hs : StatementTokens NameToken CountToken head statement) (ho : statement.offset = none)
    (hl : statement.limit = none) (hw : Clause.condition.opensWith word = true) :
    (select leftover).runFrom (.start (head ++ word :: rest)) =
      (.error ⟨head.length, .condition⟩, ⟨head.length, word :: rest⟩) := by
  obtain ⟨first, columns, source, table, offset, limit, rfl, hf, hc, hfrom, ht, hoffset, hlimit,
    _⟩ := hs
  obtain rfl := hoffset.eq_nil ho
  obtain rfl := hlimit.eq_nil hl
  rw [List.append_nil, List.append_nil, select_eq_statement_bind_ending]
  apply runFrom_bind_of_error
  rw [Cursor.start, runFrom_statement_upToTable first columns source table _ _ hf hc hfrom ht,
    runFrom_counts_condition _ _ _ _ _ hw, Nat.zero_add]

private theorem select_ignore_of_reject_ok (tokens : List String) (selection : Selection)
    (cursor : Cursor) (h : (select .reject).runFrom (.start tokens) = (.ok selection, cursor)) :
    (select .ignore).runFrom (.start tokens) = (.ok selection, cursor) ∧
      selection.ignored = none := by
  obtain ⟨other, place, hi, hr⟩ | ⟨e, place, _, hr⟩ | ⟨passed, found, rest, s, _, _, hr, _⟩ :=
    select_reject_ignore_cases tokens
  · rw [hr .reject] at h
    cases h
    exact ⟨hr .ignore, hi⟩
  · rw [hr .reject] at h
    cases h
  · rw [hr] at h
    cases h

private theorem select_ignore_of_reject_error (tokens : List String) (e : ParseError)
    (cursor : Cursor) (h : (select .reject).runFrom (.start tokens) = (.error e, cursor))
    (he : ∀ found, e.fault ≠ .leftover found) :
    (select .ignore).runFrom (.start tokens) = (.error e, cursor) := by
  obtain ⟨other, place, hi, hr⟩ | ⟨e, place, _, hr⟩ | ⟨passed, found, rest, s, _, _, hr, _⟩ :=
    select_reject_ignore_cases tokens
  · rw [hr .reject] at h
    cases h
  · rw [hr .reject] at h
    cases h
    exact hr .ignore
  · rw [hr] at h
    cases h
    exact absurd rfl (he found)

private theorem select_ignore_of_reject_leftover (tokens : List String) (found : String)
    (index : Nat) (cursor : Cursor)
    (h : (select .reject).runFrom (.start tokens) = (.error ⟨index, .leftover found⟩, cursor)) :
    ∃ statement, StatementTokens NameToken CountToken (tokens.take index) statement ∧
      (select .ignore).runFrom (.start tokens) =
        (.ok ⟨statement, false, some ⟨tokens.length - index, found, index⟩⟩,
          ⟨tokens.length, []⟩) := by
  obtain ⟨other, place, hi, hr⟩ | ⟨e, place, he, hr⟩ | ⟨passed, t, rest, s, ht, hs, hr, hi⟩ :=
    select_reject_ignore_cases tokens
  · rw [hr .reject] at h
    cases h
  · rw [hr .reject] at h
    cases h
    exact absurd rfl (he found)
  · rw [hr] at h
    cases h
    refine ⟨s, ?_, hi⟩
    rw [ht, List.take_left]
    exact hs

/-- Ignoring leftover tokens selects the longest start of the row that is a statement, and nothing
else: it differs from refusing them only where tokens are left over, and there one warning tells how
many, the first of them and its index. A condition behind the table is refused in either case. -/
theorem select_ignore_reads_longest_statement (tokens : List String) :
    (∀ selection cursor, (select .reject).runFrom (.start tokens) = (.ok selection, cursor) →
      (select .ignore).runFrom (.start tokens) = (.ok selection, cursor) ∧
        Selection.warnings (.ok selection) = []) ∧
    (∀ e cursor, (select .reject).runFrom (.start tokens) = (.error e, cursor) →
      (∀ found, e.fault ≠ .leftover found) →
      (select .ignore).runFrom (.start tokens) = (.error e, cursor) ∧
        Selection.warnings (.error e) = []) ∧
    (∀ found index cursor,
      (select .reject).runFrom (.start tokens) = (.error ⟨index, .leftover found⟩, cursor) →
      ∃ selection,
        (select .ignore).runFrom (.start tokens) = (.ok selection, ⟨tokens.length, []⟩) ∧
        Statement.ofTokens .reject (tokens.take index) = .ok selection.statement ∧
        (∀ n ≤ tokens.length, ∀ statement,
          Statement.ofTokens .reject (tokens.take n) = .ok statement → n ≤ index) ∧
        Selection.warnings (.ok selection) =
          [.ignored ⟨tokens.length - index, found, index⟩]) ∧
    ∀ head word rest statement, tokens = head ++ word :: rest →
      Statement.ofTokens .reject head = .ok statement → statement.offset = none →
      statement.limit = none → Clause.condition.opensWith word = true →
      ∀ leftover, (select leftover).runFrom (.start tokens) =
        (.error ⟨head.length, .condition⟩, ⟨head.length, word :: rest⟩) := by
  refine ⟨?_, ?_, ?_, ?_⟩
  · intro selection cursor h
    obtain ⟨hi, hn⟩ := select_ignore_of_reject_ok tokens selection cursor h
    exact ⟨hi, Selection.warnings_of_ignored_eq_none selection hn⟩
  · intro e cursor h he
    exact ⟨select_ignore_of_reject_error tokens e cursor h he, rfl⟩
  · intro found index cursor h
    obtain ⟨statement, hs, hi⟩ := select_ignore_of_reject_leftover tokens found index cursor h
    have he : Statement.ofTokens .reject tokens = .error ⟨index, .leftover found⟩ := by
      rw [Statement.ofTokens_eq, ← Cursor.start, h]
      rfl
    refine ⟨_, hi, Statement.ofTokens_of_statementTokens .reject _ statement hs, ?_,
      Selection.warnings_ignored statement _⟩
    intro n hn other ho
    apply Statement.le_index_of_viable_take tokens _ he n hn
    exact ⟨[], other, by rwa [List.append_nil]⟩
  · rintro head word rest statement rfl hs ho hl hw leftover
    exact runFrom_select_condition leftover head statement word rest
      (Statement.statementTokens_of_ofTokens head statement hs) ho hl hw

end Parser
end SelectFind
