import SelectFind.Proofs.Command.FrontEnds

/-!
# The transcript of the shell

The shell answers one line after the other until a line takes leave or is not UTF-8, or until the
input ends. What it prints for a line depends on this line alone, and a statement that fails is
answered like any other. The line that ends the shell is the last one that is read: whatever bytes
follow it make no difference to the report.
-/

namespace SelectFind.Shell

/-! ### What a line does -/

/-- The line takes leave: without the blanks around it and in any case it is `exit` or `quit`. -/
def TakesLeave (line : String) : Prop :=
  Text.sameWord (Text.trim line) "exit" = true ∨ Text.sameWord (Text.trim line) "quit" = true

instance (line : String) : Decidable (TakesLeave line) := inferInstanceAs (Decidable (_ ∨ _))

/-- The line ends the shell: it takes leave, or it is not UTF-8. -/
def EndsShell : Option String → Prop
  | none => True
  | some line => TakesLeave line

/-- What is printed for a line that does not end the shell. -/
def lineOutput (session : Session) (line : String) : String :=
  if Text.trim line = "" then ""
  else if Text.sameWord (Text.trim line) "help" = true then helpText
  else
    match session.answer (Text.trim line) with
    | .ok answer => answer ++ "\n"
    | .error e => "Error: " ++ e.message ++ "\n"

/-- What is printed for the line that ends the shell, or if there is none. -/
def parting : Option (Option String) → String
  | none => "CTRL-D\n"
  | some none => "Error: stream did not contain valid UTF-8\n"
  | some (some _) => "Goodbye!\n"

/-- Behind the lines `before` comes the first that ends the shell, or there is none. -/
structure LeftAt (lines : List (Option String)) (before : List String)
    (rest : List (Option String)) : Prop where
  split : lines = before.map some ++ rest
  stays : ∀ line ∈ before, ¬TakesLeave line
  ends : ∀ line ∈ rest.head?, EndsShell line

private theorem entry_of_takesLeave (line : String) (h : TakesLeave line) :
    Entry.ofLine line = .leave := by
  have he : Text.trim line ≠ "" := by
    intro he
    rw [TakesLeave, he] at h
    exact absurd h (by decide)
  have hl := (Bool.or_eq_true _ _).mpr h
  simp [Entry.ofLine, he, hl]

private theorem entry_of_not_takesLeave (line : String) (h : ¬TakesLeave line) :
    Entry.ofLine line =
      if Text.trim line = "" then .blank
      else if Text.sameWord (Text.trim line) "help" = true then .help
      else .statement (Text.trim line) := by
  have hl := mt (Bool.or_eq_true _ _).mp h
  simp [Entry.ofLine, hl]

private theorem lineReply_eq_lineOutput (session : Session) (line : String) (h : ¬TakesLeave line) :
    lineReply session line = lineOutput session line := by
  rw [lineReply, lineOutput, entry_of_not_takesLeave line h]
  split_ifs
  · rfl
  · rfl
  · rfl

/-! ### Lines in a row -/

private theorem transcript_stays (session : Session) (before : List String)
    (lines : List (Option String)) (h : ∀ line ∈ before, ¬TakesLeave line) :
    transcript session (before.map some ++ lines) =
      String.join (before.map (lineOutput session)) ++ transcript session lines := by
  have hne : ∀ line ∈ before, Entry.ofLine line ≠ .leave := by
    intro line hm he
    rw [entry_of_not_takesLeave line (h line hm)] at he
    split_ifs at he
  have hmap : before.map (lineReply session) = before.map (lineOutput session) :=
    List.map_congr_left fun line hm ↦ lineReply_eq_lineOutput session line (h line hm)
  rw [transcript_append session before lines hne, hmap]

private theorem transcript_ends (session : Session) (lines : List (Option String))
    (h : ∀ line ∈ lines.head?, EndsShell line) :
    transcript session lines = parting lines.head? := by
  cases lines with
  | nil => rfl
  | cons line lines =>
    cases line with
    | none => rfl
    | some line => rw [transcript, entry_of_takesLeave line (h _ rfl)]; rfl

private theorem exists_leftAt (lines : List (Option String)) :
    ∃ before rest, LeftAt lines before rest := by
  induction lines with
  | nil => exact ⟨[], [], rfl, by simp, by simp⟩
  | cons line lines ih =>
    by_cases hl : EndsShell line
    · exact ⟨[], line :: lines, rfl, by simp, by simpa using hl⟩
    · cases line with
      | none => exact absurd trivial hl
      | some line =>
        obtain ⟨before, rest, hs, hb, hr⟩ := ih
        exact ⟨line :: before, rest, by rw [hs]; rfl, List.forall_mem_cons.mpr ⟨hl, hb⟩, hr⟩

private theorem transcript_append_of_ends (session : Session) (lines more : List (Option String))
    (h : ∃ line ∈ lines, EndsShell line) :
    transcript session (lines ++ more) = transcript session lines ∧
      linesRead (lines ++ more) = linesRead lines := by
  induction lines with
  | nil => simp at h
  | cons line lines ih =>
    cases line with
    | none => exact ⟨rfl, rfl⟩
    | some line =>
      by_cases hl : TakesLeave line
      · have he := entry_of_takesLeave line hl
        simp [transcript, linesRead, he]
      · -- The line is answered, so one that ends the shell is among those behind it.
        have hrest : ∃ line ∈ lines, EndsShell line := by
          obtain ⟨x, hx, hends⟩ := h
          rcases List.mem_cons.mp hx with rfl | hx
          · exact absurd hends hl
          · exact ⟨x, hx, hends⟩
        obtain ⟨ht, hr⟩ := ih hrest
        rw [List.cons_append, transcript, transcript, linesRead, linesRead, ht, hr]
        exact ⟨rfl, rfl⟩

/-! ### The report -/

/-- What is printed from the banner on, if the history can be saved. -/
theorem output_run (session : Session) (history : History) (hs : history.savable = true)
    (input : List UInt8) (before : List String) (rest : List (Option String))
    (h : LeftAt (inputLines input) before rest) :
    (run session history input).output =
      banner ++ String.join (before.map (lineOutput session)) ++ parting rest.head? := by
  have hf : farewell history (linesRead (inputLines input)) = "" := by simp [farewell, hs]
  have ht : transcript session (inputLines input) =
      String.join (before.map (lineOutput session)) ++ parting rest.head? := by
    rw [h.split, transcript_stays session before rest h.stays, transcript_ends session rest h.ends]
  simp only [run, hf, ht, String.append_empty, String.append_assoc]

/-- Bytes behind a line that ends the shell make no difference to the report. -/
theorem run_append_of_ends (session : Session) (history : History) (front rest : List UInt8)
    (h : ∃ line ∈ inputLines (front ++ [lineFeed]), EndsShell line) :
    run session history (front ++ lineFeed :: rest) =
      run session history (front ++ [lineFeed]) := by
  obtain ⟨ht, hr⟩ := transcript_append_of_ends session _ (inputLines rest) h
  simp only [run]
  rw [inputLines_append_ended front rest, ht, hr]

/-- What the shell reports on its input in a directory. -/
structure TranscriptLaw (session : Session) (directory : Directory) (input : List UInt8) :
    Prop where
  exitCode : (Command.shell.run session directory input).exitCode = 0
  left : ∃ before rest, LeftAt (inputLines input) before rest
  output : (History.ofText (directory.readText historyFile)).savable = true →
    ∀ before rest, LeftAt (inputLines input) before rest →
      (Command.shell.run session directory input).output =
        banner ++ String.join (before.map (lineOutput session)) ++ parting rest.head?
  goesOn : ∀ line, ¬TakesLeave line → Prints session line (lineOutput session line)
  unreadable_iff : ∀ line, lineText? line = none ↔ ¬IsUtf8 line.content
  unread : ∀ front behind, input = front ++ lineFeed :: behind →
    (∃ line ∈ inputLines (front ++ [lineFeed]), EndsShell line) →
    ∀ other, Command.shell.run session directory (front ++ lineFeed :: other) =
      Command.shell.run session directory input

/-- The shell prints its banner, then for each line up to the first that ends it what this line
alone decides, and then what it is left with; a line whose statement fails is followed by the next
like any other. Whatever bytes stand behind the line that ends the shell, the report is the same,
and the exit code is always 0. -/
theorem shell_prints_up_to_leaving_line (session : Session) (directory : Directory)
    (input : List UInt8) : TranscriptLaw session directory input where
  exitCode := rfl
  left := exists_leftAt (inputLines input)
  output hs before rest h := output_run session _ hs input before rest h
  goesOn line hl lines := by
    simpa using transcript_stays session [line] lines (by simpa using hl)
  unreadable_iff := lineText?_eq_none_iff
  unread front behind hi h other := by
    rw [hi, Command.run, Command.run, run_append_of_ends session _ front other h,
      run_append_of_ends session _ front behind h]

/-- A statement that fails, a line that takes leave with blanks around it, and a byte behind it that
is not UTF-8. -/
theorem shell_prints_up_to_leaving_line_quit :
    ∃ input : List UInt8,
      LeftAt (inputLines input) ["", " Help", "select a from t", "select"] [some " QUIT\t", none] ∧
      (Command.shell.run (.ofOptions {}) .empty input).output =
        banner ++ (helpText ++ "db.t.find({}, {a: 1})\n" ++
          "Error: Parse error: Expected column list, found end of input at token 1\n") ++
          "Goodbye!\n" := by
  let input := "\n Help\nselect a from t\nselect\n QUIT\t\r\n".toUTF8.toList ++ [0xFF]
  have hi : LeftAt (inputLines input) ["", " Help", "select a from t", "select"]
      [some " QUIT\t", none] :=
    ⟨by decide +kernel, by decide +kernel, by simp [EndsShell]; decide⟩
  have hlaw := shell_prints_up_to_leaving_line (.ofOptions {}) .empty input
  refine ⟨input, hi, ?_⟩
  rw [hlaw.output (by decide +kernel) _ _ hi]
  decide +kernel

end SelectFind.Shell
