import SelectFind.Proofs.Statement.Failure

/-!
# Calls one after the other

A cursor may be asked for statements and operators in any order, also behind a failure. Each call
starts where the one before it stopped. It moves forward only and never past the last token; a
failure leaves the cursor at the token that its error names, so the next call meets that token
again.
-/

namespace SelectFind

/-- The token that a fault quotes. The end of the tokens, a negative count and a condition quote
none. -/
def Fault.found? : Fault → Option String
  | .mismatch _ found => some found
  | .ended _ => none
  | .name found _ => some found
  | .integer found => some found
  | .negative .. => none
  | .condition => none
  | .leftover found => some found

/-- The fault is one of the tokens ahead: that there is none, or one that quotes no other token than
the first. -/
structure Fault.InView (fault : Fault) (ahead : List String) : Prop where
  isEnded_iff : fault.IsEnded ↔ ahead = []
  found : ∀ found ∈ fault.found?, ahead.head? = some found

private theorem Fault.Stops.inView (fault : Fault) (ahead : List String) (h : fault.Stops ahead) :
    fault.InView ahead := by
  cases h with
  | ofName h =>
    cases h with
    | ended expected => exact ⟨⟨fun _ ↦ rfl, fun _ ↦ ⟨expected, rfl⟩⟩, by simp [found?]⟩
    | _ => exact ⟨by simp [IsEnded], by simp [found?]⟩
  | _ => exact ⟨by simp [IsEnded], by simp [found?]⟩

private theorem Fault.inView_leftover (t : String) (tokens : List String) :
    (Fault.leftover t).InView (t :: tokens) :=
  ⟨by simp [IsEnded], by simp [found?]⟩

/-! ### Places in a row of tokens -/

/-- The cursor is a place in the row: the tokens behind it and those ahead are the row. -/
def Cursor.IsIn (cursor : Cursor) (tokens : List String) : Prop :=
  ∃ passed, tokens = passed ++ cursor.ahead ∧ cursor.position = passed.length

namespace Cursor

variable {cursor : Cursor} {tokens : List String}

/-- The start of a row is a place in it. -/
theorem isIn_start (tokens : List String) : (start tokens).IsIn tokens := ⟨[], rfl, rfl⟩

private theorem IsIn.pass (h : cursor.IsIn tokens) (passed rest : List String)
    (ha : cursor.ahead = passed ++ rest) :
    IsIn ⟨cursor.position + passed.length, rest⟩ tokens := by
  obtain ⟨behind, rfl, hp⟩ := h
  refine ⟨behind ++ passed, ?_, ?_⟩
  · rw [ha, List.append_assoc]
  · rw [hp, List.length_append]

/-- A place in the row lies within it. -/
theorem IsIn.position_le (h : cursor.IsIn tokens) : cursor.position ≤ tokens.length := by
  obtain ⟨behind, rfl, hp⟩ := h
  rw [hp, List.length_append]
  exact Nat.le_add_right _ _

/-- The tokens ahead are those of the row from the position on. -/
theorem IsIn.ahead_eq (h : cursor.IsIn tokens) : cursor.ahead = tokens.drop cursor.position := by
  obtain ⟨behind, rfl, hp⟩ := h
  rw [hp, List.drop_left]

/-- A position within the row and the tokens from it on are a place in the row. -/
theorem isIn_of_drop (hle : cursor.position ≤ tokens.length)
    (ha : cursor.ahead = tokens.drop cursor.position) : cursor.IsIn tokens := by
  refine ⟨tokens.take cursor.position, ?_, ?_⟩
  · rw [ha, List.take_append_drop]
  · rw [List.length_take, Nat.min_eq_left hle]

private theorem IsIn.ahead_eq_nil_iff (h : cursor.IsIn tokens) :
    cursor.ahead = [] ↔ cursor.position = tokens.length := by
  rw [h.ahead_eq, List.drop_eq_nil_iff]
  have := h.position_le
  omega

private theorem IsIn.head?_ahead (h : cursor.IsIn tokens) :
    cursor.ahead.head? = tokens[cursor.position]? := by
  rw [h.ahead_eq, List.head?_drop]

end Cursor

/-! ### One call -/

/-- What an error tells of a row of tokens: it is the end of the tokens exactly if its index is one
past the last, and else the token that it quotes is the one at its index. -/
structure ParseError.Locates (e : ParseError) (tokens : List String) : Prop where
  isEnded_iff : e.fault.IsEnded ↔ e.index = tokens.length
  index_lt : ¬e.fault.IsEnded → e.index < tokens.length
  found : ∀ found ∈ e.fault.found?, tokens[e.index]? = some found

private theorem ParseError.locates_of_isIn (e : ParseError) (cursor : Cursor) (tokens : List String)
    (hc : cursor.IsIn tokens) (hi : e.index = cursor.position) (hf : e.fault.InView cursor.ahead) :
    e.Locates tokens where
  isEnded_iff := by rw [hf.isEnded_iff, hc.ahead_eq_nil_iff, hi]
  index_lt := by
    rw [hf.isEnded_iff, hc.ahead_eq_nil_iff, hi]
    exact Nat.lt_of_le_of_ne hc.position_le
  found t ht := by rw [hi, ← hc.head?_ahead, hf.found t ht]

namespace Parser

/-- What a call that starts at a place in the row does to the place, and what its result tells. -/
structure CallLaw (tokens : List String) (call : Call) (before : Cursor)
    (result : Except ParseError Reply × Cursor) : Prop where
  isIn : result.2.position ≤ tokens.length ∧ result.2.ahead = tokens.drop result.2.position
  forward : before.position ≤ result.2.position
  failed : ∀ e, result.1 = .error e → result.2.position = e.index ∧ e.Locates tokens
  operator_failed : ∀ e, result.1 = .error e → call ≠ .select →
    result.2.position = before.position
  operator_passed : ∀ reply, result.1 = .ok reply → call ≠ .select →
    result.2.position = before.position + 1
  selected : ∀ reply, result.1 = .ok reply → call = .select → result.2.position = tokens.length
  ignored : ∀ selection, result.1 = .ok (.selection selection) → ∀ i ∈ selection.ignored,
    i.index < tokens.length ∧ i.count = tokens.length - i.index

private theorem CallLaw.of_error (tokens : List String) (call : Call) (before after : Cursor)
    (e : ParseError) (hc : after.IsIn tokens) (hle : before.position ≤ after.position)
    (hi : e.index = after.position) (hf : e.fault.InView after.ahead)
    (ho : call ≠ .select → after = before) : CallLaw tokens call before (.error e, after) where
  isIn := ⟨hc.position_le, hc.ahead_eq⟩
  forward := hle
  failed e' h := by
    cases h
    exact ⟨hi.symm, e.locates_of_isIn after tokens hc hi hf⟩
  operator_failed e' _ hne := by rw [ho hne]
  operator_passed reply h := by cases h
  selected reply h := by cases h
  ignored selection h := by cases h

private theorem CallLaw.of_ok (tokens : List String) (call : Call) (before after : Cursor)
    (reply : Reply) (hc : after.IsIn tokens) (hle : before.position ≤ after.position)
    (ho : call ≠ .select → after.position = before.position + 1)
    (hs : call = .select → after.ahead = [])
    (hi : ∀ selection, reply = .selection selection → ∀ i ∈ selection.ignored,
      i.index < tokens.length ∧ i.count = tokens.length - i.index) :
    CallLaw tokens call before (.ok reply, after) where
  isIn := ⟨hc.position_le, hc.ahead_eq⟩
  forward := hle
  failed e h := by cases h
  operator_failed e h := by cases h
  operator_passed _ _ := ho
  selected _ _ h := hc.ahead_eq_nil_iff.mp (hs h)
  ignored selection h := hi selection (Except.ok.inj h)

variable {α β : Type}

private theorem runFrom_map_of_ok {p : Parser α} {cursor reached : Cursor} {a : α}
    (h : p.runFrom cursor = (.ok a, reached)) (f : α → β) :
    (f <$> p).runFrom cursor = (.ok (f a), reached) := runFrom_bind_of_ok h _

/-- A failure stays as it is. -/
theorem runFrom_map_of_error {p : Parser α} {cursor reached : Cursor} {e : ParseError}
    (h : p.runFrom cursor = (.error e, reached)) (f : α → β) :
    (f <$> p).runFrom cursor = (.error e, reached) := runFrom_bind_of_error h _

private theorem runFrom_accept_cases (expected : Expected) (read? : String → Option α)
    (cursor : Cursor) :
    (∃ e, e.index = cursor.position ∧
      (accept expected read?).runFrom cursor = (.error e, cursor)) ∨
    ∃ a t rest, cursor.ahead = [t] ++ rest ∧
      (accept expected read?).runFrom cursor = (.ok a, ⟨cursor.position + 1, rest⟩) := by
  obtain ⟨position, tokens⟩ := cursor
  cases tokens with
  | nil => exact .inl ⟨_, rfl, runFrom_token_nil _ _ position⟩
  | cons t tokens =>
    cases hr : read? t with
    | none =>
      refine .inl ⟨⟨position, .mismatch expected t⟩, rfl, ?_⟩
      exact runFrom_token_error _ _ position t tokens _ (by rw [hr]; rfl)
    | some a =>
      refine .inr ⟨a, t, tokens, rfl, ?_⟩
      exact runFrom_token_ok _ _ position t tokens a (by rw [hr]; rfl)

private theorem callLaw_accept (tokens : List String) (call : Call) (expected : Expected)
    (read? : String → Option α) (wrap : α → Reply) (cursor : Cursor) (hcall : call ≠ .select)
    (hwrap : ∀ a selection, wrap a ≠ .selection selection) (hc : cursor.IsIn tokens) :
    CallLaw tokens call cursor ((wrap <$> accept expected read?).runFrom cursor) := by
  obtain ⟨e, hi, hr⟩ | ⟨a, t, rest, ha, hr⟩ := runFrom_accept_cases expected read? cursor
  · rw [runFrom_map_of_error hr]
    apply CallLaw.of_error _ _ _ _ _ hc (Nat.le_refl _) hi
    · exact (Fault.Stops.ofName (failsWith_accept expected read? cursor e cursor hr)).inView
    · intro _
      rfl
  · rw [runFrom_map_of_ok hr]
    apply CallLaw.of_ok _ _ _ _ _ (hc.pass [t] rest ha) (Nat.le_succ _)
    · intro _
      rfl
    · intro h
      exact absurd h hcall
    · intro selection h
      exact absurd h (hwrap a selection)

/-- A call for a statement obeys the law. -/
theorem callLaw_select (leftover : Leftover) (tokens : List String) (cursor : Cursor)
    (hc : cursor.IsIn tokens) :
    CallLaw tokens .select cursor ((Reply.selection <$> select leftover).runFrom cursor) := by
  obtain ⟨passed, rest, ha, h⟩ := runFrom_select_cases cursor.position cursor.ahead
  have hin := hc.pass passed rest ha
  have hle : cursor.position ≤ cursor.position + passed.length := Nat.le_add_right _ _
  have hne : Call.select ≠ .select → False := fun h ↦ h rfl
  obtain ⟨e, hi, he, hr⟩ | ⟨s, _, hr⟩ := h
  · rw [runFrom_map_of_error (hr leftover)]
    exact CallLaw.of_error _ _ _ _ _ hin hle hi he.inView fun h ↦ (hne h).elim
  · cases rest with
    | nil =>
      rw [runFrom_map_of_ok ((hr leftover).trans (runFrom_ending_nil leftover s _))]
      apply CallLaw.of_ok _ _ _ _ _ hin hle (fun h ↦ (hne h).elim) (fun _ ↦ rfl)
      rintro _ ⟨⟩ i ⟨⟩
    | cons t rest =>
      cases leftover with
      | reject =>
        rw [runFrom_map_of_error ((hr .reject).trans (runFrom_ending_reject s _ t rest))]
        exact CallLaw.of_error _ _ _ _ _ hin hle rfl (Fault.inView_leftover t rest)
          fun h ↦ (hne h).elim
      | ignore =>
        rw [runFrom_map_of_ok ((hr .ignore).trans (runFrom_ending_ignore s _ t rest))]
        have hend := hin.pass (t :: rest) [] (List.append_nil _).symm
        apply CallLaw.of_ok _ _ _ _ _ hend (Nat.le_add_right_of_le hle)
          (fun h ↦ (hne h).elim) (fun _ ↦ rfl)
        -- The tokens that are counted are those between the warning's index and the end of the row.
        rintro _ ⟨⟩ i ⟨⟩
        have hlength := hend.ahead_eq_nil_iff.mp rfl
        have hpos : 0 < (t :: rest).length := Nat.succ_pos _
        dsimp only at hlength ⊢
        omega

/-- Every call obeys the law. -/
theorem callLaw_ofCall (leftover : Leftover) (tokens : List String) (call : Call) (cursor : Cursor)
    (hc : cursor.IsIn tokens) :
    CallLaw tokens call cursor ((ofCall leftover call).runFrom cursor) := by
  cases call with
  | select => exact callLaw_select leftover tokens cursor hc
  | comparison => exact callLaw_accept _ _ _ _ _ _ (by decide) (by simp) hc
  | connective => exact callLaw_accept _ _ _ _ _ _ (by decide) (by simp) hc
  | negation => exact callLaw_accept _ _ _ _ _ _ (by decide) (by simp) hc

/-! ### A row of calls -/

/-- From a place in the row every call of a row of calls obeys the law, and starts where the call
before it stopped. -/
theorem runCalls_callLaw_from (leftover : Leftover) (tokens : List String) (calls : List Call)
    (cursor : Cursor) (hc : cursor.IsIn tokens) (k : Nat) (call : Call)
    (hk : calls[k]? = some call) :
    ∃ before result,
      (cursor :: (runCalls leftover calls cursor).map Prod.snd)[k]? = some before ∧
      (runCalls leftover calls cursor)[k]? = some result ∧
      result = (ofCall leftover call).runFrom before ∧ CallLaw tokens call before result := by
  induction calls generalizing cursor k with
  | nil => simp at hk
  | cons first calls ih =>
    have hlaw := callLaw_ofCall leftover tokens first cursor hc
    cases k with
    | zero =>
      obtain rfl : first = call := Option.some.inj hk
      exact ⟨cursor, _, rfl, rfl, rfl, hlaw⟩
    | succ k => exact ih _ (Cursor.isIn_of_drop hlaw.isIn.1 hlaw.isIn.2) k hk

private theorem length_runCalls (leftover : Leftover) (calls : List Call) (cursor : Cursor) :
    (runCalls leftover calls cursor).length = calls.length := by
  induction calls generalizing cursor with
  | nil => rfl
  | cons first calls ih => rw [runCalls, List.length_cons, List.length_cons, ih]

/-- From the start of a row of tokens, whatever calls are made and whether or not they fail, each
call starts where the one before it stopped and obeys the law: the position never goes back and
never past the last token, a failure leaves it at the token that its error names, an operator passes
one token, a statement all of them, and the number of ignored tokens is that of the tokens behind
the statement. -/
theorem runCalls_obey_callLaw (leftover : Leftover) (tokens : List String) (calls : List Call) :
    (runCalls leftover calls (.start tokens)).length = calls.length ∧
    ∀ (k : Nat) (call : Call), calls[k]? = some call →
      ∃ before result,
        (Cursor.start tokens ::
          (runCalls leftover calls (.start tokens)).map Prod.snd)[k]? = some before ∧
        (runCalls leftover calls (.start tokens))[k]? = some result ∧
        result = (ofCall leftover call).runFrom before ∧ CallLaw tokens call before result :=
  ⟨length_runCalls leftover calls (.start tokens),
    runCalls_callLaw_from leftover tokens calls (.start tokens) (Cursor.isIn_start tokens)⟩

end Parser
end SelectFind
