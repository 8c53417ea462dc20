import SelectFind.Proofs.Statement.Calls
import SelectFind.Proofs.Statement.Coupling

/-!
# Calls from a place further on

Indices and positions are counted from the first token of the row, so a call behind others could
depend on the tokens that lie behind it, or on how many there are. It does not: from a place in a
row the calls do what they do from the start of the tokens that are ahead there, and all that
changes is that each index and each position is greater by the number of tokens behind.
-/

namespace SelectFind

/-! ### Places further on -/

/-- The place in the row with that many tokens behind it. -/
def Cursor.inRow (tokens : List String) (position : Nat) : Cursor :=
  ⟨position, tokens.drop position⟩

/-- The place with that many more tokens behind it. -/
def Cursor.moved (n : Nat) (cursor : Cursor) : Cursor := ⟨cursor.position + n, cursor.ahead⟩

/-- The error that many tokens further on. -/
def ParseError.moved (n : Nat) (e : ParseError) : ParseError := ⟨e.index + n, e.fault⟩

/-- The ignored tokens that many tokens further on. -/
def Ignored.moved (n : Nat) (i : Ignored) : Ignored := ⟨i.count, i.token, i.index + n⟩

/-- The selection from a place that many tokens further on: the statement is the same. -/
def Selection.moved (n : Nat) (s : Selection) : Selection :=
  ⟨s.statement, s.endsAtTable, s.ignored.map (Ignored.moved n)⟩

namespace Parser

/-- What a call gives that many tokens further on. -/
def Reply.moved (n : Nat) : Reply → Reply
  | .selection s => .selection (s.moved n)
  | .comparison op => .comparison op
  | .logical op => .logical op

/-- The result of a call that many tokens further on. -/
def movedResult (n : Nat) : Except ParseError Reply × Cursor → Except ParseError Reply × Cursor
  | (.ok reply, cursor) => (.ok (reply.moved n), cursor.moved n)
  | (.error e, cursor) => (.error (e.moved n), cursor.moved n)

end Parser

namespace Cursor

private theorem inRow_eq_moved (tokens : List String) (p : Nat) :
    inRow tokens p = (start (tokens.drop p)).moved p := by
  simp [inRow, moved, start]

private theorem moved_inRow (tokens : List String) (p q : Nat) :
    (inRow (tokens.drop p) q).moved p = inRow tokens (p + q) := by
  simp [inRow, moved, List.drop_drop, Nat.add_comm]

private theorem IsIn.eq_inRow {cursor : Cursor} {tokens : List String} (h : cursor.IsIn tokens) :
    cursor = inRow tokens cursor.position := by
  rw [inRow, ← h.ahead_eq]

end Cursor

/-! ### Coupling with an equal row -/

private theorem Fault.Coupled.eq {f g : Fault} (h : f.Coupled Eq g) : f = g := by
  cases h with
  | mismatch expected h => rw [h]
  | ended expected => rfl
  | name fault h => rw [h]
  | integer h => rw [h]
  | negative c value => rfl
  | condition => rfl
  | leftover h => rw [h]

variable {n : Nat}

private theorem ParseError.Coupled.eq_moved {d e : ParseError} (h : d.Coupled Eq n e) :
    d = e.moved n := by
  obtain ⟨index, fault⟩ := d
  obtain ⟨hi, hf⟩ := h
  simp only at hi hf
  rw [hi, hf.eq, moved]

private theorem Cursor.Coupled.eq_moved {p q : Cursor} (h : p.Coupled Eq n q) : p = q.moved n := by
  obtain ⟨position, ahead⟩ := p
  obtain ⟨hp, ha⟩ := h
  simp only [List.forall₂_eq_eq_eq] at hp ha
  rw [hp, ha, moved]

private theorem Ignored.Coupled.eq_moved {i j : Ignored} (h : i.Coupled Eq n j) :
    i = j.moved n := by
  obtain ⟨count, token, index⟩ := i
  obtain ⟨hc, ht, hi⟩ := h
  simp only at hc ht hi
  rw [hc, ht, hi, moved]

private theorem Selection.Coupled.eq_moved {a b : Selection} (h : a.Coupled Eq n b) :
    a = b.moved n := by
  obtain ⟨statement, endsAtTable, ignored⟩ := a
  obtain ⟨statement', endsAtTable', ignored'⟩ := b
  obtain ⟨rfl, rfl, hi⟩ := h
  cases hi with
  | none => rfl
  | some h => rw [h.eq_moved, moved, Option.map_some]

namespace Parser

private theorem coupled_map_accept {α : Type} (expected : Expected) (read? : String → Option α)
    (wrap : α → Reply) (hw : ∀ a, (wrap a).moved n = wrap a) :
    Coupled Eq n (fun a b ↦ a = b.moved n) (wrap <$> accept expected read?)
      (wrap <$> accept expected read?) := by
  apply (coupled_accept expected read? fun t u h ↦ congrArg read? h).bind
  rintro a _ rfl
  exact coupled_pure (hw a).symm

private theorem coupled_ofCall (leftover : Leftover) (call : Call) (n : Nat) :
    Coupled Eq n (fun a b ↦ a = b.moved n) (ofCall leftover call) (ofCall leftover call) := by
  have hR (t u : String) (h : t = u) : Token.Interchangeable t u := h ▸ .refl t
  cases call with
  | select =>
    apply (coupled_select hR leftover).bind
    intro a b h
    exact coupled_pure (congrArg Reply.selection h.eq_moved)
  | comparison => exact coupled_map_accept _ _ _ fun _ ↦ rfl
  | connective => exact coupled_map_accept _ _ _ fun _ ↦ rfl
  | negation => exact coupled_map_accept _ _ _ fun _ ↦ rfl

/-- One call, with more tokens behind its place. -/
theorem runFrom_ofCall_moved (leftover : Leftover) (call : Call) (n : Nat) (cursor : Cursor) :
    (ofCall leftover call).runFrom (cursor.moved n) =
      movedResult n ((ofCall leftover call).runFrom cursor) := by
  have hc : (cursor.moved n).Coupled Eq n cursor := ⟨rfl, List.forall₂_refl _⟩
  have hr := coupled_ofCall leftover call n _ _ hc
  generalize (ofCall leftover call).runFrom (cursor.moved n) = r at hr ⊢
  generalize (ofCall leftover call).runFrom cursor = s at hr ⊢
  cases hr with
  | ok hv hc => rw [hv, hc.eq_moved, movedResult]
  | error he hc => rw [he.eq_moved, hc.eq_moved, movedResult]

/-! ### Rows of calls -/

private theorem movedResult_snd (n : Nat) (result : Except ParseError Reply × Cursor) :
    (movedResult n result).2 = result.2.moved n := by
  obtain ⟨_ | _, _⟩ := result <;> rfl

/-- Calls in a row, with more tokens behind the place of the first. -/
theorem runCalls_moved (leftover : Leftover) (calls : List Call) (n : Nat) (cursor : Cursor) :
    runCalls leftover calls (cursor.moved n) =
      (runCalls leftover calls cursor).map (movedResult n) := by
  induction calls generalizing cursor with
  | nil => rfl
  | cons call calls ih =>
    rw [runCalls, runCalls, runFrom_ofCall_moved, movedResult_snd, ih, List.map_cons]

private theorem runCalls_isIn (leftover : Leftover) (tokens : List String) (calls : List Call)
    (cursor : Cursor) (hc : cursor.IsIn tokens) :
    ∀ result ∈ runCalls leftover calls cursor, result.2.IsIn tokens := by
  induction calls generalizing cursor with
  | nil => simp [runCalls]
  | cons call calls ih =>
    have hlaw := callLaw_ofCall leftover tokens call cursor hc
    have hin := Cursor.isIn_of_drop hlaw.isIn.1 hlaw.isIn.2
    rw [runCalls, List.forall_mem_cons]
    exact ⟨hin, ih _ hin⟩

/-- Whatever calls are made from a place in a row of tokens, and whether or not they fail, each
gives what it gives from the start of the tokens ahead of that place: it succeeds with the same value or
fails with the same fault, and every index and every position is greater by the number of tokens
behind. The places that are reached lie in the row and in its end alike. -/
theorem runCalls_see_tokens_ahead (leftover : Leftover) (tokens : List String) (p : Nat)
    (hp : p ≤ tokens.length) (calls : List Call) :
    runCalls leftover calls (.inRow tokens p) =
      (runCalls leftover calls (.start (tokens.drop p))).map (movedResult p) ∧
    ∀ result ∈ runCalls leftover calls (.start (tokens.drop p)),
      ∃ q, p + q ≤ tokens.length ∧ result.2 = .inRow (tokens.drop p) q ∧
        (movedResult p result).2 = .inRow tokens (p + q) := by
  constructor
  · rw [Cursor.inRow_eq_moved, runCalls_moved]
  · intro result hr
    have hin := runCalls_isIn leftover _ calls _ (Cursor.isIn_start (tokens.drop p)) result hr
    have hle := hin.position_le
    rw [List.length_drop] at hle
    refine ⟨result.2.position, by omega, hin.eq_inRow, ?_⟩
    rw [movedResult_snd, hin.eq_inRow, Cursor.moved_inRow]
    rfl

/-- Behind an operator and a negation, a statement with ignored tokens, and a call behind them. -/
theorem runCalls_see_tokens_ahead_ignored :
    2 ≤ ["=", "NOT", "SELECT", "*", "FROM", "t", "LIMIT", "1", "x", "y"].length ∧
    runCalls .ignore [.select, .negation]
        (.inRow ["=", "NOT", "SELECT", "*", "FROM", "t", "LIMIT", "1", "x", "y"] 2) =
      [(.ok (.selection ⟨⟨⟨"t", false⟩, none, none, none, some 1⟩, false, some ⟨2, "x", 8⟩⟩),
          ⟨10, []⟩),
        (.error ⟨10, .ended .negation⟩, ⟨10, []⟩)] := by
  have hp : 2 ≤ ["=", "NOT", "SELECT", "*", "FROM", "t", "LIMIT", "1", "x", "y"].length := by decide
  refine ⟨hp, ?_⟩
  rw [(runCalls_see_tokens_ahead .ignore _ 2 hp _).1]
  decide +kernel

end Parser
end SelectFind
