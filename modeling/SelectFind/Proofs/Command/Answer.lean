import SelectFind.Proofs.Command.Arguments
import SelectFind.Proofs.Statement.Written

/-!
# Answers that fail

Every statement that is read has a query, since none is read with a condition. So a text has a query
exactly if it has a statement, and otherwise both fail with one error. A session that answers with
statements then fails where one does that answers with queries, and reports the same.
-/

namespace SelectFind

/-! ### Queries and statements of a text -/

private theorem Find.ofText_eq_map (settings : Settings) (sql : String) :
    Find.ofText settings sql =
      (Statement.ofText settings sql).map fun statement ↦ settings.database ++ body statement := by
  cases h : Statement.ofText settings sql with
  | error e => simp only [Find.ofText, h, Except.map]
  | ok statement =>
    have hc := (Statement.writable_of_ofText settings sql statement h).condition
    rw [Statement.findOfText_of_ofText settings statement sql h,
      Statement.query_of_condition_none settings.database statement hc]
    rfl

private theorem Statement.ofText_withDatabase (settings : Settings) (database sql : String) :
    Statement.ofText { settings with database } sql = Statement.ofText settings sql := rfl

private theorem Statement.ofText_ne_rendering (settings : Settings) (sql : String)
    (e : RenderError) : Statement.ofText settings sql ≠ .error (.rendering e) := by
  intro h
  obtain ⟨_, _, he⟩ | ⟨_, _, _, _, he⟩ := ofText_eq_error settings sql _ h
  · cases he
  · cases he

private theorem map_eq_error_iff {ε α β : Type} (f : α → β) (result : Except ε α) (e : ε) :
    result.map f = .error e ↔ result = .error e := by
  cases result with
  | error _ => simp [Except.map]
  | ok _ => simp [Except.map]

/-- How the query of a text and its statement hang together. -/
structure Find.TextLaw (settings : Settings) (sql : String) : Prop where
  error_iff : ∀ e, Find.ofText settings sql = .error e ↔ Statement.ofText settings sql = .error e
  ne_rendering : ∀ e, Find.ofText settings sql ≠ .error (.rendering e)
  query : ∀ statement, Statement.ofText settings sql = .ok statement →
    Find.ofText settings sql = .ok (settings.database ++ Find.body statement)
  withDatabase_error_iff : ∀ database e,
    Find.ofText { settings with database } sql = .error e ↔ Find.ofText settings sql = .error e
  withDatabase_query_iff : ∀ database rest,
    Find.ofText { settings with database } sql = .ok (database ++ rest) ↔
      Find.ofText settings sql = .ok (settings.database ++ rest)

private theorem Find.textLaw (settings : Settings) (sql : String) : Find.TextLaw settings sql where
  error_iff e := by rw [ofText_eq_map, map_eq_error_iff]
  ne_rendering e := by
    rw [ofText_eq_map, Ne, map_eq_error_iff]
    exact Statement.ofText_ne_rendering settings sql e
  query statement h := by
    rw [ofText_eq_map, h]
    rfl
  withDatabase_error_iff database e := by
    rw [ofText_eq_map, ofText_eq_map, map_eq_error_iff, map_eq_error_iff,
      Statement.ofText_withDatabase]
  withDatabase_query_iff database rest := by
    rw [ofText_eq_map, ofText_eq_map, Statement.ofText_withDatabase]
    cases Statement.ofText settings sql with
    | error e => simp [Except.map]
    | ok statement => simp [Except.map]

/-! ### Sessions -/

namespace Session

/-- What a session prints for a statement. -/
def print (session : Session) (statement : Statement) : String :=
  if session.ast then statement.toJson.pretty
  else session.settings.database ++ Find.body statement

/-- The answer of a session is printed from the statement of the text. -/
theorem answer_eq_map (session : Session) (sql : String) :
    session.answer sql = (Statement.ofText session.settings sql).map session.print := by
  unfold answer print
  cases session.ast with
  | true => rfl
  | false => exact Find.ofText_eq_map session.settings sql

/-- A session fails as the reading of the statement does. -/
theorem answer_eq_error_iff (session : Session) (sql : String) (e : Error) :
    session.answer sql = .error e ↔ Statement.ofText session.settings sql = .error e := by
  rw [answer_eq_map, map_eq_error_iff]

private theorem events_of_error (session : Session) (sql : String) (e : Error)
    (h : session.answer sql = .error e) :
    session.events sql = Statement.textEvents session.settings sql := by
  rw [answer_eq_error_iff] at h
  unfold events
  cases session.ast with
  | true => rfl
  | false => simp [Find.textEvents, h]

/-- The report on a text that fails. -/
theorem query_of_error (session : Session) (sql : String) (e : Error)
    (h : session.answer sql = .error e) :
    session.query sql =
      ⟨1, "", session.told (session.events sql) ++ "Error translating query: " ++ e.message ++
        "\n"⟩ := by
  simp only [query, h]

/-- The report on a text that is answered. -/
theorem query_of_ok (session : Session) (sql answer : String)
    (h : session.answer sql = .ok answer) :
    session.query sql = ⟨0, answer ++ "\n", session.told (session.events sql)⟩ := by
  simp only [query, h]

/-- A text that fails is told of with nothing but its error, unless more detail is asked for. -/
theorem told_of_error (session : Session) (hl : session.level = .warn) (sql : String)
    (e : Error) (h : session.answer sql = .error e) :
    session.told (session.events sql) = "" := by
  have hs := (session.answer_eq_error_iff sql e).mp h
  have hlexed : (Tokens.ofString sql).events.filter (Event.isSeenAt .warn) = [] := by
    simp [Tokens.events, Event.isSeenAt, Event.level, Level.rank]
  rw [session.events_of_error sql e h, told, hl, Statement.textEvents, List.filter_append, hlexed]
  obtain ⟨_, ht, _⟩ | ⟨tokens, p, ht, hp, _⟩ := Statement.ofText_eq_error session.settings sql e hs
  · rw [ht]
    rfl
  · have hr : Selection.ofTokens session.settings.leftover tokens = .error p :=
      (map_eq_error_iff _ _ p).mp hp
    rw [ht]
    simp only [hr]
    rfl

end Session

private theorem Batch.exists_error_of_not_succeeds (session : Session) (sql : String)
    (h : succeeds session sql = false) : ∃ e, session.answer sql = .error e := by
  cases ha : session.answer sql with
  | error e => exact ⟨e, rfl⟩
  | ok answer =>
    rw [succeeds, ha] at h
    cases h

/-! ### Two forms of answers -/

/-- The sessions differ in nothing but the form of their answers. -/
structure Session.SameButForm (a b : Session) : Prop where
  settings : a.settings = b.settings
  level : a.level = b.level

/-- The sessions answer the same texts, print the same for each text that fails, wherever it is
given, and end every command with the same exit code. -/
structure Session.FailsAlike (a b : Session) : Prop where
  error_iff : ∀ sql e, a.answer sql = .error e ↔ b.answer sql = .error e
  query : ∀ sql, (b.query sql).exitCode ≠ 0 → a.query sql = b.query sql
  entry : ∀ sql, Batch.succeeds b sql = false → Batch.entry a sql = Batch.entry b sql
  reply : ∀ sql, Batch.succeeds b sql = false → Shell.reply a sql = Shell.reply b sql
  exitCode : ∀ (command : Command) directory input,
    (command.run a directory input).exitCode = (command.run b directory input).exitCode

namespace Session.SameButForm

variable {a b : Session}

private theorem error_iff (h : SameButForm a b) (sql : String) (e : Error) :
    a.answer sql = .error e ↔ b.answer sql = .error e := by
  rw [answer_eq_error_iff, answer_eq_error_iff, h.settings]

private theorem succeeds (h : SameButForm a b) (sql : String) :
    Batch.succeeds a sql = Batch.succeeds b sql := by
  unfold Batch.succeeds
  rw [answer_eq_map, answer_eq_map, h.settings]
  cases Statement.ofText b.settings sql <;> rfl

private theorem query_of_error (h : SameButForm a b) (sql : String) (e : Error)
    (he : b.answer sql = .error e) : a.query sql = b.query sql := by
  have ha := (h.error_iff sql e).mpr he
  rw [a.query_of_error sql e ha, b.query_of_error sql e he, a.events_of_error sql e ha,
    b.events_of_error sql e he, h.settings]
  simp only [told, h.level]

private theorem exitCode_query (h : SameButForm a b) (sql : String) :
    (a.query sql).exitCode = (b.query sql).exitCode := by
  cases hb : b.answer sql with
  | error e => rw [h.query_of_error sql e hb]
  | ok answer =>
    cases ha : a.answer sql with
    | error e =>
      rw [(h.error_iff sql e).mp ha] at hb
      cases hb
    | ok other => rw [a.query_of_ok sql other ha, b.query_of_ok sql answer hb]

private theorem failsAlike (h : SameButForm a b) : FailsAlike a b where
  error_iff := h.error_iff
  query sql hf := by
    cases hb : b.answer sql with
    | error e => exact h.query_of_error sql e hb
    | ok answer =>
      rw [b.query_of_ok sql answer hb] at hf
      exact absurd rfl hf
  entry sql hf := by
    obtain ⟨e, hb⟩ := Batch.exists_error_of_not_succeeds b sql hf
    simp only [Batch.entry, hb, (h.error_iff sql e).mpr hb]
  reply sql hf := by
    obtain ⟨e, hb⟩ := Batch.exists_error_of_not_succeeds b sql hf
    simp only [Shell.reply, hb, (h.error_iff sql e).mpr hb]
  exitCode command directory input := by
    cases command with
    | query sql => exact h.exitCode_query sql
    | shell => rfl
    | file path =>
      simp only [Command.run, Batch.runFile]
      cases directory.readText path with
      | error e => rfl
      | ok text =>
        have hs : Batch.succeeds a = Batch.succeeds b := funext h.succeeds
        simp only [Batch.run, hs]

end Session.SameButForm

/-- Writing the query of a text fails exactly as reading its statement does, never in the writing,
and else puts the database in front of what the statement alone decides. So with `--ast` the same
texts fail as without, with the same reports, and commands end with the same exit code. -/
theorem Find.ofText_fails_with_statement :
    (∀ settings sql, Find.TextLaw settings sql) ∧
    (∀ options : Options, Session.FailsAlike (.ofOptions { options with ast := true })
      (.ofOptions { options with ast := false })) ∧
    ∀ (options : Options) (command : Command) directory input,
      (command.called { options with ast := true } directory input).exitCode =
        (command.called { options with ast := false } directory input).exitCode ∧
      (command ≠ .file "" → command.called options directory input =
        command.run (.ofOptions options) directory input) := by
  have hs (options : Options) : Session.FailsAlike (.ofOptions { options with ast := true })
      (.ofOptions { options with ast := false }) := Session.SameButForm.failsAlike ⟨rfl, rfl⟩
  refine ⟨Find.textLaw, hs, ?_⟩
  intro options command directory input
  refine ⟨?_, fun h ↦ command.called_eq_run h options directory input⟩
  by_cases h : command = .file ""
  · rw [h, Command.called_empty_path, Command.called_empty_path]
  · rw [command.called_eq_run h, command.called_eq_run h]
    exact (hs options).exitCode command directory input

end SelectFind
