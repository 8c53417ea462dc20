import SelectFind.Proofs.Command.Batch
import SelectFind.Proofs.Command.Input
import SelectFind.Proofs.Token.Padding

/-!
# One statement at three front ends

A statement can be given as the operand of `query`, as a line of a file or as a line of the shell.
Files and the shell trim the line and `query` does not, but trimming keeps the tokens of a text. So
the three answer a line alike, or fail with one error, which `query` finds the blanks in front
further on if it is one of the lexer.
-/

namespace SelectFind

/-! ### Trimmed texts -/

/-- The error that many characters further on. Errors behind the lexer are not found by their place
in the text. -/
def Error.moved (n : Nat) : Error → Error
  | .lexical e => .lexical (e.moved n)
  | .grammatical e => .grammatical e
  | .rendering e => .rendering e

/-- A text has the statement that it has when it is trimmed, or its error, moved by the blanks in
front. -/
theorem Statement.ofText_eq_mapError (settings : Settings) (sql : String) :
    Statement.ofText settings sql =
      (Statement.ofText settings (Text.trim sql)).mapError (Error.moved (Text.margin sql)) := by
  have hs := tokenize_eq_mapError sql
  cases ht : tokenize (Text.trim sql) with
  | error e =>
    rw [ht] at hs
    rw [ofText_of_tokenize_error settings sql _ hs, ofText_of_tokenize_error settings _ e ht]
    rfl
  | ok tokens =>
    rw [ht] at hs
    rw [ofText_of_tokenize settings sql tokens hs, ofText_of_tokenize settings _ tokens ht]
    cases Statement.ofTokens settings.leftover tokens <;> rfl

/-- A session answers a text as it answers the trimmed text, or fails with the error of that, moved
by the blanks in front. -/
theorem Session.answer_eq_mapError (session : Session) (sql : String) :
    session.answer sql =
      (session.answer (Text.trim sql)).mapError (Error.moved (Text.margin sql)) := by
  rw [answer_eq_map, answer_eq_map, Statement.ofText_eq_mapError]
  cases Statement.ofText session.settings (Text.trim sql) <;> rfl

/-! ### Lines -/

/-- A line that holds a statement wherever it is given: it is not blank, no comment and no command
of the shell. -/
structure IsStatementLine (s : String) : Prop where
  lineFeed_notMem : '\n' ∉ s.toList
  ne_empty : Text.trim s ≠ ""
  not_comment : ¬"--".toList <+: (Text.trim s).toList
  not_command : ∀ word ∈ ["exit", "quit", "help"], Text.sameWord (Text.trim s) word = false

namespace IsStatementLine

variable {s : String}

private theorem nonempty (h : IsStatementLine s) : s ≠ "" := by
  rintro rfl
  exact h.ne_empty rfl

private theorem isStatement (h : IsStatementLine s) : Batch.isStatement (Text.trim s) = true := by
  have he : (Text.trim s).toList ≠ [] := mt String.toList_eq_nil_iff.mp h.ne_empty
  have hc : "--".toList.isPrefixOf (Text.trim s).toList = false := by
    rw [← Bool.not_eq_true, List.isPrefixOf_iff_prefix]
    exact h.not_comment
  simp only [Batch.isStatement, hc, List.isEmpty_eq_false_iff.mpr he]
  rfl

private theorem entry_ofLine (h : IsStatementLine s) :
    Shell.Entry.ofLine s = .statement (Text.trim s) := by
  simp [Shell.Entry.ofLine, h.ne_empty, h.not_command]

private theorem statements_eq (h : IsStatementLine s) (ending : String)
    (he : ending ∈ ["", "\n", "\r\n"]) : Batch.statements (s ++ ending) = [Text.trim s] := by
  have hline (w : String) (hn : '\n' ∉ w.toList) (hb : ∀ c ∈ w.toList, Text.isBlank c = true) :
      Batch.statements (s ++ w) = [Text.trim s] := by
    have hl : '\n' ∉ (s ++ w).toList := by simp [h.lineFeed_notMem, hn]
    rw [Batch.statements_line _ hl, Text.trim_append_blanks s w hb, List.filter_singleton,
      h.isStatement]
    rfl
  simp only [List.mem_cons, List.not_mem_nil, or_false] at he
  rcases he with rfl | rfl | rfl
  · exact hline "" (by simp) (by simp)
  · rw [Batch.statements_ended]
    simpa using hline "" (by simp) (by simp)
  · have hs : s ++ "\r\n" = s ++ "\r" ++ "\n" := by
      apply String.toList_injective
      simp
    rw [hs, Batch.statements_ended]
    apply hline "\r" (by simp)
    intro c hc
    obtain rfl : c = '\r' := by simpa using hc
    decide

end IsStatementLine

namespace Shell

/-- What is printed for a line. -/
def lineReply (session : Session) (line : String) : String :=
  match Entry.ofLine line with
  | .blank => ""
  | .leave => "Goodbye!\n"
  | .help => helpText
  | .statement sql => reply session sql

/-- The text is printed for the line, before all that is printed for the lines behind it. -/
def Prints (session : Session) (line text : String) : Prop :=
  ∀ lines, transcript session (some line :: lines) = text ++ transcript session lines

/-- The line is answered with the text: it is printed for the line, and not to report an error. -/
def Answers (session : Session) (line q : String) : Prop :=
  Prints session line (q ++ "\n") ∧
    ∀ e : Error, session.answer (Text.trim line) = .error e → q ≠ "Error: " ++ e.message

/-- Lines that do not leave the shell are replied to one by one. -/
theorem transcript_append (session : Session) (before : List String)
    (lines : List (Option String)) (h : ∀ line ∈ before, Entry.ofLine line ≠ .leave) :
    transcript session (before.map some ++ lines) =
      String.join (before.map (lineReply session)) ++ transcript session lines := by
  induction before with
  | nil => simp
  | cons line before ih =>
    obtain ⟨hl, hb⟩ := List.forall_mem_cons.mp h
    rw [List.map_cons, List.map_cons, String.join_cons, List.cons_append, transcript, lineReply,
      ih hb, String.append_assoc]
    cases he : Entry.ofLine line with
    | leave => exact absurd he hl
    | _ => simp

private theorem prints_iff (session : Session) (s text : String) (h : IsStatementLine s) :
    Prints session s text ↔ text = reply session (Text.trim s) := by
  have ht (lines : List (Option String)) : transcript session (some s :: lines) =
      reply session (Text.trim s) ++ transcript session lines := by
    rw [transcript, h.entry_ofLine]
  constructor
  · intro hp
    have he := hp []
    rw [ht] at he
    exact ((String.append_left_inj _).mp he).symm
  · rintro rfl lines
    exact ht lines

end Shell

/-! ### Front ends -/

/-- What `query`, a file that holds the line alone and the shell have in common on a line, by the
reports of the first two. -/
structure FrontEndLaw (session : Session) (s : String) (asked filed : Report) : Prop where
  exitCode_eq : asked.exitCode = filed.exitCode
  file_iff : ∀ q, asked.exitCode = 0 ∧ asked.output = q ++ "\n" ↔
    filed.exitCode = 0 ∧ filed.output = Text.trim s ++ " -> " ++ q ++ "\n"
  shell_iff : ∀ q, asked.exitCode = 0 ∧ asked.output = q ++ "\n" ↔
    Shell.Answers session s q
  failed : asked.exitCode ≠ 0 → ∃ (e : Error) (told : String),
    asked = ⟨1, "", told ++ "Error translating query: " ++ (e.moved (Text.margin s)).message ++
      "\n"⟩ ∧ (session.level = .warn → told = "") ∧
    filed.output = Text.trim s ++ " -> error: " ++ e.message ++ "\n" ∧
    Shell.Prints session s ("Error: " ++ e.message ++ "\n")

private theorem frontEndLaw_of_ok (session : Session) (s text answer : String)
    (hs : IsStatementLine s) (ht : Batch.statements text = [Text.trim s])
    (h : session.answer (Text.trim s) = .ok answer) :
    FrontEndLaw session s (session.query s) (Batch.run session text) := by
  obtain ⟨hcode, hout⟩ := Batch.run_of_statements_eq session text _ ht
  have hsucceeds : Batch.succeeds session (Text.trim s) = true := by
    rw [Batch.succeeds, h]
    rfl
  have hreply : Shell.reply session (Text.trim s) = answer ++ "\n" := by
    simp only [Shell.reply, h]
  have ha : session.answer s = .ok answer := by
    rw [session.answer_eq_mapError, h]
    rfl
  rw [hsucceeds] at hcode
  simp only [Batch.entry, h] at hout
  rw [session.query_of_ok s answer ha]
  refine ⟨hcode.symm, ?_, ?_, ?_⟩
  · intro q
    rw [hcode, hout]
    simp
  · intro q
    rw [Shell.Answers, Shell.prints_iff session s _ hs, hreply, h]
    simp [eq_comm]
  · intro hf
    exact absurd rfl hf

private theorem frontEndLaw_of_error (session : Session) (s text : String) (e : Error)
    (hs : IsStatementLine s) (ht : Batch.statements text = [Text.trim s])
    (h : session.answer (Text.trim s) = .error e) :
    FrontEndLaw session s (session.query s) (Batch.run session text) := by
  obtain ⟨hcode, hout⟩ := Batch.run_of_statements_eq session text _ ht
  have hsucceeds : Batch.succeeds session (Text.trim s) = false := by
    rw [Batch.succeeds, h]
    rfl
  have hreply : Shell.reply session (Text.trim s) = "Error: " ++ e.message ++ "\n" := by
    simp only [Shell.reply, h]
  have ha : session.answer s = .error (e.moved (Text.margin s)) := by
    rw [session.answer_eq_mapError, h]
    rfl
  rw [hsucceeds] at hcode
  simp only [Batch.entry, h] at hout
  rw [session.query_of_error s _ ha]
  refine ⟨hcode.symm, ?_, ?_, ?_⟩
  · intro q
    rw [hcode]
    simp
  · intro q
    constructor
    · rintro ⟨hzero, _⟩
      cases hzero
    · rintro ⟨hp, hq⟩
      rw [Shell.prints_iff session s _ hs, hreply, String.append_left_inj] at hp
      exact absurd hp (hq e h)
  · intro _
    exact ⟨e, _, rfl, fun hl ↦ session.told_of_error hl s _ ha, hout,
      (Shell.prints_iff session s _ hs).mpr hreply.symm⟩

/-- A line that holds a statement wherever it is given is answered alike by `query`, by a file that
holds it alone and by the shell, under any options. Where they fail, it is with one error: `query`,
which does not trim, finds one of the lexer further on by the number of blanks in front. What the
shell prints for the line stands in its output whatever lines are given before and behind it, and a
plain line is handed over to the shell as it was piped. -/
theorem front_ends_agree (options : Options) (directory : Directory) (input : List UInt8)
    (s path ending : String) (hs : IsStatementLine s) (he : ending ∈ ["", "\n", "\r\n"])
    (hp : directory.readText path = .ok (s ++ ending)) :
    FrontEndLaw (.ofOptions options) s ((Command.query s).called options directory input)
      ((Command.file path).called options directory input) ∧
    (∀ (before : List String) (rest : List (Option String)) (text : String),
      (∀ line ∈ before, Shell.Entry.ofLine line ≠ .leave) →
      Shell.inputLines input = before.map some ++ some s :: rest →
      Shell.Prints (.ofOptions options) s text →
      (Command.shell.called options directory input).exitCode = 0 ∧
      (Command.shell.called options directory input).output =
        Shell.banner ++ (String.join (before.map (Shell.lineReply (.ofOptions options))) ++
          (text ++ Shell.transcript (.ofOptions options) rest)) ++
          Shell.farewell (.ofText (directory.readText Shell.historyFile))
            (Shell.linesRead (Shell.inputLines input))) ∧
    ∀ (front rest : List UInt8) (mark : String), Shell.IsPlain s →
      (∀ b ∈ front.getLast?, b = Shell.lineFeed) →
      mark ∈ ["\n", "\r\n"] ∨ mark = "" ∧ rest = [] →
      input = front ++ (Text.utf8 (s ++ mark) ++ rest) →
      Shell.inputLines input = Shell.inputLines front ++ some s :: Shell.inputLines rest := by
  have hpath : Command.file path ≠ .file "" := by
    rintro ⟨⟩
    cases hp
  have htext := hs.statements_eq ending he
  rw [Command.called_eq_run _ (by simp), Command.called_eq_run _ hpath,
    Command.called_eq_run _ (by simp)]
  simp only [Command.run, Batch.runFile, hp]
  refine ⟨?_, ?_, ?_⟩
  · cases h : (Session.ofOptions options).answer (Text.trim s) with
    | ok answer => exact frontEndLaw_of_ok _ s _ answer hs htext h
    | error e => exact frontEndLaw_of_error _ s _ e hs htext h
  · intro before rest text hb hlines ht
    refine ⟨rfl, ?_⟩
    rw [Shell.run, hlines, Shell.transcript_append _ before _ hb, ht rest]
  · intro front rest mark hplain hfront hmark hinput
    rw [hinput, Shell.inputLines_append front _ hfront,
      hplain.inputLines_utf8_append hs.nonempty mark rest hmark]

/-- A line with blanks at both ends whose last quotation mark is escaped: `query` finds the mark
that is not closed two characters further on than the file does. -/
theorem front_ends_agree_unclosed_quote :
    ∃ (directory : Directory) (input : List UInt8) (s : String),
      IsStatementLine s ∧ directory.readText "f.sql" = .ok (s ++ "\r\n") ∧
      Shell.inputLines input = ["", "HELP"].map some ++ some s :: [some "exit"] ∧
      (Command.query s).called {} directory input =
        ⟨1, "", "Error translating query: " ++
          "Lex error: unterminated quoted identifier at position 16\n"⟩ ∧
      ((Command.file "f.sql").called {} directory input).output =
        "select a from 'b\\' -> error: Lex error: unterminated quoted identifier at position 14\n" ∧
      FrontEndLaw (.ofOptions {}) s ((Command.query s).called {} directory input)
        ((Command.file "f.sql").called {} directory input) ∧
      (Command.shell.called {} directory input).exitCode = 0 := by
  let s := "\t select a from 'b\\' "
  let directory : Directory := .ofList [("f.sql", .file (s ++ "\r\n").toUTF8)]
  let input := Text.utf8 "\nHELP\n" ++ (Text.utf8 (s ++ "\n") ++ Text.utf8 "exit")
  have hs : IsStatementLine s :=
    ⟨by decide +kernel, by decide +kernel, by decide +kernel, by decide +kernel⟩
  have hp : directory.readText "f.sql" = .ok (s ++ "\r\n") := by decide +kernel
  obtain ⟨hlaw, hshell, hpiped⟩ :=
    front_ends_agree {} directory input s "f.sql" "\r\n" hs (by simp) hp
  have hi : Shell.inputLines input = ["", "HELP"].map some ++ some s :: [some "exit"] := by
    rw [hpiped (Text.utf8 "\nHELP\n") (Text.utf8 "exit") "\n" ⟨by decide, by decide, by decide⟩
      (by decide +kernel) (by simp) rfl]
    decide +kernel
  have hreply := (Shell.prints_iff (.ofOptions {}) s _ hs).mpr rfl
  exact ⟨directory, input, s, hs, hp, hi, by decide +kernel, by decide +kernel, hlaw,
    (hshell _ _ _ (by decide +kernel) hi hreply).1⟩

end SelectFind
