import SelectFind.Proofs.Command.Answer
import SelectFind.Proofs.Statement.OneLine

/-!
# Files line by line

The statements of two texts with a line feed between them are those of the first and then those of
the second. A run prints one entry for each statement, which depends on this statement alone, so
that runs are put together as texts are. Where queries are printed and the name of the database has
no line feed, an entry is one line.
-/

namespace SelectFind

namespace Session

private theorem lineFeed_notMem_answer (session : Session) (hast : session.ast = false)
    (hd : '\n' ∉ session.settings.database.toList) (sql answer : String) (hs : '\n' ∉ sql.toList)
    (h : session.answer sql = .ok answer) : '\n' ∉ answer.toList := by
  rw [answer_eq_map] at h
  cases hst : Statement.ofText session.settings sql with
  | error e =>
    rw [hst] at h
    cases h
  | ok statement =>
    rw [hst] at h
    cases h
    have hb := Find.lineFeed_notMem_body statement
      (Statement.lineFeed_notMem_name session.settings sql statement hs hst)
    simp [print, hast, hd, hb]

private theorem lineFeed_notMem_message (session : Session) (sql : String) (e : Error)
    (hs : '\n' ∉ sql.toList) (h : session.answer sql = .error e) : '\n' ∉ e.message.toList :=
  Statement.lineFeed_notMem_message session.settings sql e hs
    ((session.answer_eq_error_iff sql e).mp h)

end Session

namespace Batch

/-! ### Statements of a text -/

/-- A text without a line feed holds at most the statement that it is when it is trimmed. -/
theorem statements_line (line : String) (h : '\n' ∉ line.toList) :
    statements line = [Text.trim line].filter isStatement := by
  by_cases hne : line.toList = []
  · obtain rfl := String.toList_eq_nil_iff.mp hne
    rfl
  · rw [statements, trimmedLines, Text.lines_of_notMem '\n' line.toList h hne]
    rfl

private theorem statements_line_append (line rest : String) (h : '\n' ∉ line.toList) :
    statements (line ++ "\n" ++ rest) = statements line ++ statements rest := by
  have hl : (line ++ "\n" ++ rest).toList = line.toList ++ '\n' :: rest.toList := by simp
  rw [statements_line line h, statements, trimmedLines, hl,
    Text.lines_append_mark '\n' line.toList rest.toList h, List.map_cons, ← List.singleton_append,
    List.filter_append]
  rfl

/-- The statements of two texts with a line feed between them are those of the one and then those of
the other. -/
theorem statements_append (a b : String) :
    statements (a ++ "\n" ++ b) = statements a ++ statements b := by
  rw [← String.ofList_toList (s := a)]
  induction a.toList using Text.induction_lines '\n' with
  | last line h => exact statements_line_append _ b (by simpa using h)
  | ended line rest h ih =>
    have hl : '\n' ∉ (String.ofList line).toList := by simpa using h
    have hs : String.ofList (line ++ '\n' :: rest) =
        String.ofList line ++ "\n" ++ String.ofList rest := by
      apply String.toList_injective
      simp
    have hassoc : String.ofList line ++ "\n" ++ String.ofList rest ++ "\n" ++ b =
        String.ofList line ++ "\n" ++ (String.ofList rest ++ "\n" ++ b) := by
      simp only [String.append_assoc]
    rw [hs, hassoc, statements_line_append _ _ hl, statements_line_append _ _ hl, ih,
      List.append_assoc]

/-- A line feed at the end of a text adds no statement. -/
theorem statements_ended (text : String) : statements (text ++ "\n") = statements text := by
  rw [← String.append_empty (s := text ++ "\n"), statements_append]
  exact List.append_nil _

private theorem lineFeed_notMem_statement (text : String) :
    ∀ sql ∈ statements text, '\n' ∉ sql.toList := by
  intro sql h
  obtain ⟨line, hl, rfl⟩ := List.mem_map.mp (List.mem_of_mem_filter h)
  have hn := Text.mark_notMem_of_mem_lines '\n' text.toList line hl
  rw [String.toList_ofList]
  exact fun hm ↦ hn ((Text.trimBlanks_isInfix line.content).subset hm)

/-! ### Reports -/

/-- A run prints the entries of the statements one after the other. -/
theorem output_run_append (session : Session) (a b : String) :
    (run session (a ++ "\n" ++ b)).output = (run session a).output ++ (run session b).output := by
  simp only [run, statements_append, List.map_append, String.join_append]

private theorem output_run_line (session : Session) (line : String) (h : '\n' ∉ line.toList) :
    (run session line).output =
      if isStatement (Text.trim line) then entry session (Text.trim line) else "" := by
  simp only [run, statements_line line h]
  split
  · next hs => simp [hs]
  · next hs => simp [hs]

private theorem exitCode_run_eq_one_iff (session : Session) (text : String) :
    (run session text).exitCode = 1 ↔ ∃ sql ∈ statements text, succeeds session sql = false := by
  simp [run]

/-- A run ends with exit code 0 exactly if every statement is answered. -/
theorem exitCode_run_eq_zero_iff (session : Session) (text : String) :
    (run session text).exitCode = 0 ↔ ∀ sql ∈ statements text, succeeds session sql = true := by
  simp [run]

/-- A text with one statement is answered by its entry. -/
theorem run_of_statements_eq (session : Session) (text sql : String)
    (h : statements text = [sql]) :
    (run session text).exitCode = (if succeeds session sql then 0 else 1) ∧
      (run session text).output = entry session sql := by
  simp [run, h]

/-! ### Lines of the output -/

/-- The printed line of a statement: it starts with the statement and is ended. -/
def IsEntryLine (sql : String) (line : Text.Line Char) : Prop :=
  line.ended = true ∧ (sql ++ " -> ").toList <+: line.content

private theorem exists_entry_eq (session : Session) (hast : session.ast = false)
    (hd : '\n' ∉ session.settings.database.toList) (sql : String) (hs : '\n' ∉ sql.toList) :
    ∃ outcome : String, '\n' ∉ outcome.toList ∧
      entry session sql = sql ++ " -> " ++ outcome ++ "\n" := by
  unfold entry
  cases h : session.answer sql with
  | ok answer =>
    exact ⟨answer, session.lineFeed_notMem_answer hast hd sql answer hs h, rfl⟩
  | error e =>
    refine ⟨"error: " ++ e.message, ?_, ?_⟩
    · simp [session.lineFeed_notMem_message sql e hs h]
    · apply String.toList_injective
      simp

private theorem lines_join_entries (session : Session) (hast : session.ast = false)
    (hd : '\n' ∉ session.settings.database.toList) (sqls : List String)
    (hs : ∀ sql ∈ sqls, '\n' ∉ sql.toList) :
    (String.join (sqls.map (entry session))).toList.count '\n' = sqls.length ∧
      List.Forall₂ IsEntryLine sqls
        (Text.lines '\n' (String.join (sqls.map (entry session))).toList) := by
  induction sqls with
  | nil => exact ⟨rfl, .nil⟩
  | cons sql sqls ih =>
    obtain ⟨hsql, hrest⟩ := List.forall_mem_cons.mp hs
    obtain ⟨hcount, hlines⟩ := ih hrest
    obtain ⟨outcome, ho, he⟩ := exists_entry_eq session hast hd sql hsql
    have hline : '\n' ∉ (sql ++ " -> " ++ outcome).toList := by simp [hsql, ho]
    have hl : (String.join ((sql :: sqls).map (entry session))).toList =
        (sql ++ " -> " ++ outcome).toList ++
          '\n' :: (String.join (sqls.map (entry session))).toList := by
      rw [List.map_cons, String.join_cons, he]
      simp
    rw [hl, Text.lines_append_mark '\n' _ _ hline, List.count_append, List.count_cons_self,
      List.count_eq_zero_of_not_mem hline, hcount, Nat.zero_add, List.length_cons]
    refine ⟨rfl, .cons ⟨rfl, ?_⟩ hlines⟩
    rw [String.toList_append (s := sql ++ " -> ")]
    exact List.prefix_append _ _

/-- A text is answered line by line: two texts with a line feed between them are answered as each is
alone, a line that is no statement prints nothing, and no line changes what is printed for the
others. The run fails exactly if some statement does. Where queries are printed and the name of the
database has no line feed, there is one printed line for each statement, and it starts with it. -/
theorem run_is_line_by_line (session : Session) :
    (∀ a b,
      (run session (a ++ "\n" ++ b)).output = (run session a).output ++ (run session b).output ∧
      ((run session (a ++ "\n" ++ b)).exitCode = 0 ↔
        (run session a).exitCode = 0 ∧ (run session b).exitCode = 0)) ∧
    (∀ line, '\n' ∉ line.toList →
      (run session line).output =
        if isStatement (Text.trim line) then entry session (Text.trim line) else "") ∧
    (∀ a line b, (run session (a ++ "\n" ++ line ++ "\n" ++ b)).output =
      (run session a).output ++ (run session line).output ++ (run session b).output) ∧
    (∀ text,
      ((run session text).exitCode = 0 ↔ ∀ sql ∈ statements text, succeeds session sql = true) ∧
      ((run session text).exitCode = 1 ↔ ∃ sql ∈ statements text, succeeds session sql = false)) ∧
    (session.ast = false → '\n' ∉ session.settings.database.toList → ∀ text,
      (run session text).output.toList.count '\n' = (statements text).length ∧
      List.Forall₂ IsEntryLine (statements text)
        (Text.lines '\n' (run session text).output.toList)) := by
  refine ⟨?_, output_run_line session, ?_, ?_, ?_⟩
  · intro a b
    refine ⟨output_run_append session a b, ?_⟩
    rw [exitCode_run_eq_zero_iff, exitCode_run_eq_zero_iff, exitCode_run_eq_zero_iff,
      statements_append, List.forall_mem_append]
  · intro a line b
    rw [output_run_append, output_run_append]
  · intro text
    exact ⟨exitCode_run_eq_zero_iff session text, exitCode_run_eq_one_iff session text⟩
  · intro hast hd text
    exact lines_join_entries session hast hd (statements text) (lineFeed_notMem_statement text)

end Batch
end SelectFind
