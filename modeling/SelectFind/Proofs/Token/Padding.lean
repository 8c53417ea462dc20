import SelectFind.Proofs.Text.Lines
import SelectFind.Proofs.Token.Escape
import SelectFind.Proofs.Token.Layout

/-!
# Blanks around a text

Blanks in front of a text move its tokens by their number, and blanks behind it change nothing: no
token goes on into them, and a delimiter that is not closed before them is not closed in them, since
no blank is a delimiter. So trimming a text keeps its tokens, and where the lexer fails, it does so
the number of blanks in front earlier.
-/

namespace SelectFind

/-- The number of blanks in front of a text. -/
def Text.margin (s : String) : Nat := (s.toList.takeWhile isBlank).length

/-- The failure that many characters further on. -/
def LexError.moved (n : Nat) (e : LexError) : LexError := ⟨e.offset + n⟩

/-- The tokens and the failure that many characters further on. -/
def Tokens.moved (n : Nat) (ts : Tokens) : Tokens where
  spans := ts.spans.map fun span ↦ ⟨span.token, span.stop + n⟩
  failure := ts.failure.map (LexError.moved n)

namespace Token

private theorem EndsBefore.append_blanks (t : String) (rest w : List Char) (h : EndsBefore t rest)
    (hw : ∀ c ∈ w, Text.isBlank c = true) : EndsBefore t (rest ++ w) := by
  intro ht c hc
  cases rest with
  | cons x rest => exact h ht c hc
  | nil => simp [isBare, hw c (List.mem_of_mem_head? hc)]

private theorem upToClosing_append_blanks (d : Delimiter) (rest w : List Char)
    (h : upToClosing d.char false rest = none) (hw : ∀ c ∈ w, Text.isBlank c = true) :
    upToClosing d.char false (rest ++ w) = none := by
  have hd : d.char ∉ w := by
    intro hm
    have hb := isBlank_char d
    rw [hw d.char hm] at hb
    cases hb
  rw [upToClosing_eq_none_iff] at h ⊢
  rintro ⟨front, back, he, hp⟩
  -- The place of the delimiter lies in the characters, as it is none of the blanks.
  rcases List.append_eq_append_iff.mp he with ⟨behind, rfl, rfl⟩ | ⟨behind, rfl, hb⟩
  · exact hd (by simp)
  · cases behind with
    | nil =>
      rw [List.nil_append] at hb
      exact hd (hb ▸ List.mem_cons_self)
    | cons x behind =>
      obtain ⟨rfl, _⟩ := List.cons.inj hb
      exact h ⟨front, behind, rfl, hp⟩

end Token

namespace Lexer

private theorem tokens_congr (l l' : Lexer) (h : l.next = l'.next) : l.tokens = l'.tokens := by
  cases hn : l'.next with
  | mk result reached =>
    rw [hn] at h
    cases result with
    | error e => rw [tokens_of_next_error l _ e h, tokens_of_next_error l' _ e hn]
    | ok token =>
      cases token with
      | none => rw [tokens_of_next_none l _ h, tokens_of_next_none l' _ hn]
      | some t => rw [tokens_of_next_token l _ t h, tokens_of_next_token l' _ t hn]

private theorem tokens_blanks (offset : Nat) (w rest : List Char)
    (hw : ∀ c ∈ w, Text.isBlank c = true) :
    (Lexer.mk offset (w ++ rest)).tokens = (Lexer.mk (offset + w.length) rest).tokens := by
  apply tokens_congr
  have hs : (Lexer.mk offset (w ++ rest)).skipBlanks =
      (Lexer.mk (offset + w.length) rest).skipBlanks := by
    simp [skipBlanks, advance, List.takeWhile_append_of_pos hw, Nat.add_assoc, List.drop_append]
  rw [next, next, hs]

private theorem tokens_padded (l : Lexer) (n : Nat) (w : List Char)
    (hw : ∀ c ∈ w, Text.isBlank c = true) :
    (Lexer.mk (l.offset + n) (l.ahead ++ w)).tokens = l.tokens.moved n := by
  induction hn : l.ahead.length using Nat.strongRecOn generalizing l with
  | ind k ih =>
    obtain hb | ⟨v, t, rest, hl, hv, ht, he⟩ | ⟨v, d, rest, hl, hv, hr⟩ := l.ahead_cases
    · have hall : ∀ c ∈ l.ahead ++ w, Text.isBlank c = true := by
        intro c hc
        exact (List.mem_append.mp hc).elim (hb c) (hw c)
      rw [tokens_of_next_none l _ (next_of_blank l hb),
        tokens_of_next_none _ _ (next_of_blank _ hall)]
      rfl
    · have hnext := next_of_token l v rest t hl hv ht he
      have hpadded := next_of_token ⟨l.offset + n, l.ahead ++ w⟩ v (rest ++ w) t
        (by simp [hl]) hv ht (he.append_blanks t rest w hw)
      have hoffset : l.offset + n + v.length + t.toList.length =
          l.offset + v.length + t.toList.length + n := by omega
      have hrest := ih rest.length (by simpa [hn] using length_next_lt hnext)
        ⟨l.offset + v.length + t.toList.length, rest⟩ rfl
      dsimp only at hpadded hrest
      rw [hoffset] at hpadded
      rw [tokens_of_next_token l _ t hnext, tokens_of_next_token _ _ t hpadded, hrest]
      rfl
    · have hpadded := next_of_unclosed ⟨l.offset + n, l.ahead ++ w⟩ v (rest ++ w) d
        (by simp [hl]) hv (Token.upToClosing_append_blanks d rest w hr hw)
      dsimp only at hpadded
      rw [Nat.add_right_comm] at hpadded
      rw [tokens_of_next_error l _ _ (next_of_unclosed l v rest d hl hv hr),
        tokens_of_next_error _ _ _ hpadded]
      rfl

end Lexer

/-- A text has the tokens that it has when it is trimmed, moved by the blanks in front. -/
theorem Tokens.ofString_eq_moved (s : String) :
    Tokens.ofString s = (Tokens.ofString (Text.trim s)).moved (Text.margin s) := by
  obtain ⟨back, hb, hs⟩ := Text.exists_eq_append_trimBlanks s.toList
  have hf : ∀ c ∈ s.toList.takeWhile Text.isBlank, Text.isBlank c = true :=
    List.all_eq_true.mp List.all_takeWhile
  calc Tokens.ofString s
    _ = (Lexer.mk (0 + Text.margin s) (Text.trimBlanks s.toList ++ back)).tokens := by
      rw [Text.margin, ← Lexer.tokens_blanks 0 _ _ hf, ← hs]
      rfl
    _ = (Lexer.mk 0 (Text.trimBlanks s.toList)).tokens.moved (Text.margin s) :=
      Lexer.tokens_padded ⟨0, _⟩ _ back hb
    _ = (Tokens.ofString (Text.trim s)).moved (Text.margin s) := by
      rw [Tokens.ofString, Lexer.start, Text.trim, String.toList_ofList]

/-- Trimming a text keeps its tokens, and a failure is found the blanks in front earlier. -/
theorem tokenize_eq_mapError (s : String) :
    tokenize s = (tokenize (Text.trim s)).mapError (LexError.moved (Text.margin s)) := by
  simp only [tokenize, Tokens.ofString_eq_moved s]
  cases h : (Tokens.ofString (Text.trim s)).failure with
  | none => simp [Tokens.moved, h, Except.mapError]
  | some e => simp [Tokens.moved, h, Except.mapError]

end SelectFind
