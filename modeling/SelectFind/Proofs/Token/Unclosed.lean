import SelectFind.Proofs.Token.Escape
import SelectFind.Proofs.Token.Layout

/-!
# Names that are never closed

A text that does not divide into tokens has a delimiter that opens a name and is never closed. The
text in front of this delimiter divides into tokens, and the delimiter stands where a token can
start: at the start of the text, behind a blank, or right behind a comma or a quoted name. There is
one such place, and the failure names it by the number of characters in front.
-/

namespace SelectFind

namespace Token

/-- A token can start right behind a text with the given tokens: the text is empty, it ends with a
blank, or it ends with its last token and that is the comma or a quoted one. -/
def StartsBehind (front : String) (tokens : List String) : Prop :=
  front = "" ∨ (∃ c ∈ front.toList.getLast?, Text.isBlank c = true) ∨
    ∃ t ∈ tokens.getLast?, (t = separator ∨ IsQuotedToken t) ∧ t.toList <:+ front.toList

/-- Behind `n` characters of the text a delimiter opens a name and is never closed. -/
def UnclosedAt (s : String) (n : Nat) : Prop :=
  ∃ (front : String) (d : Delimiter) (rest : List Char) (tokens : List String),
    s.toList = front.toList ++ d.char :: rest ∧ front.length = n ∧ tokenize front = .ok tokens ∧
    StartsBehind front tokens ∧ ¬HasUnescaped d.char rest

/-! ### Where a token can start -/

/-- A token can start right behind the pieces: the last of them is not bare or blanks follow it. -/
def EndsApart (pieces : List Piece) : Prop :=
  ∀ p ∈ pieces.getLast?, IsBareToken p.token → p.gap ≠ ""

private theorem toList_layout_concat (front : String) (pieces : List Piece) (p : Piece) :
    (layout front (pieces ++ [p])).toList =
      (layout front pieces).toList ++ (p.token.toList ++ p.gap.toList) := by
  simp [layout, Piece.text, String.toList_join]

private theorem endsBefore_append_char_iff (t : String) (cs rest : List Char) (d : Delimiter) :
    EndsBefore t (cs ++ d.char :: rest) ↔ EndsBefore t cs ∧ (cs = [] → ¬IsBareToken t) := by
  cases cs with
  | nil => simp [EndsBefore, isBare_char]
  | cons c cs => simp [EndsBefore]

private theorem endsApart_cons_iff (p : Piece) (pieces : List Piece) (h : IsLayout p.gap pieces) :
    EndsApart (p :: pieces) ↔
      EndsApart pieces ∧ ((layout p.gap pieces).toList = [] → ¬IsBareToken p.token) := by
  cases pieces with
  | nil =>
    rw [toList_layout_nil, String.toList_eq_nil_iff]
    constructor
    · intro ha
      exact ⟨by simp [EndsApart], fun hg hb ↦ ha p rfl hb hg⟩
    · rintro ⟨_, hn⟩ _ ⟨⟩ hb hg
      exact hn hg hb
  | cons q pieces =>
    have hq : q.token.toList ≠ [] := by
      rw [Ne, String.toList_eq_nil_iff]
      exact (h.isToken q List.mem_cons_self).ne_empty
    simp [EndsApart, toList_layout_cons, hq]

private theorem IsToken.not_isBareToken_iff (t : String) (h : IsToken t) :
    ¬IsBareToken t ↔ t = separator ∨ IsQuotedToken t := by
  constructor
  · intro hb
    rcases h with h | h | h
    · exact absurd h hb
    · exact .inr h
    · exact .inl h
  · rintro (rfl | ⟨d, name, _, rfl⟩) hb
    · exact (hb.plain comma List.mem_cons_self).2 rfl
    · exact hb.unquoted d (by simp)

-- A text of blanks is empty or ends with one of them.
private theorem getLast?_of_isBlank (w : String) (h : Text.IsBlank w) :
    w = "" ∨ ∃ c ∈ w.toList.getLast?, Text.isBlank c = true := by
  cases hc : w.toList.getLast? with
  | none => exact .inl (String.toList_eq_nil_iff.mp (List.getLast?_eq_none_iff.mp hc))
  | some c => exact .inr ⟨c, rfl, h c (List.mem_of_getLast? hc)⟩

private theorem startsBehind_iff_endsApart (front : String) (pieces : List Piece)
    (h : IsLayout front pieces) :
    StartsBehind (layout front pieces) (pieces.map Piece.token) ↔ EndsApart pieces := by
  constructor
  · intro hs p hp hb hg
    obtain ⟨init, rfl⟩ := List.getLast?_eq_some_iff.mp hp
    have hne : p.token.toList ≠ [] := fun he ↦ hb.ne_empty (String.toList_eq_nil_iff.mp he)
    have hl : (layout front (init ++ [p])).toList =
        (layout front init).toList ++ p.token.toList := by
      rw [toList_layout_concat, hg, String.toList_empty, List.append_nil]
    rcases hs with he | ⟨c, hc, hblank⟩ | ⟨t, ht, hk, _⟩
    · rw [he, String.toList_empty] at hl
      exact hne (List.append_eq_nil_iff.mp hl.symm).2
    · rw [hl, List.getLast?_append_of_ne_nil _ hne] at hc
      rw [(hb.plain c (List.mem_of_getLast? hc)).1] at hblank
      cases hblank
    · obtain rfl : p.token = t := by simpa using ht
      exact ((h.isToken p (by simp)).not_isBareToken_iff).mpr hk hb
  · intro ha
    cases hp : pieces.getLast? with
    | none =>
      obtain rfl := List.getLast?_eq_none_iff.mp hp
      have hf : layout front [] = front := String.toList_injective (toList_layout_nil front)
      rw [hf]
      rcases getLast?_of_isBlank front h.front_blank with he | hb
      · exact .inl he
      · exact .inr (.inl hb)
    | some p =>
      obtain ⟨init, rfl⟩ := List.getLast?_eq_some_iff.mp hp
      have hm : p ∈ init ++ [p] := by simp
      rcases getLast?_of_isBlank p.gap (h.gap_blank p hm) with hg | ⟨c, hc, hb⟩
      · have hk := ((h.isToken p hm).not_isBareToken_iff).mp fun hb ↦ ha p hp hb hg
        refine .inr (.inr ⟨p.token, by simp, hk, (layout front init).toList, ?_⟩)
        rw [toList_layout_concat, hg, String.toList_empty, List.append_nil]
      · refine .inr (.inl ⟨c, ?_, hb⟩)
        rw [toList_layout_concat, ← List.append_assoc, List.getLast?_append, hc]
        rfl

end Token

namespace Lexer

private theorem failure_of_unclosed (l : Lexer) (front : String) (pieces : List Token.Piece)
    (d : Delimiter) (rest : List Char) (h : Token.IsLayout front pieces)
    (hl : l.ahead = (Token.layout front pieces).toList ++ d.char :: rest)
    (ha : Token.EndsApart pieces) (hr : Token.upToClosing d.char false rest = none) :
    l.tokens.failure = some ⟨l.offset + (Token.layout front pieces).length⟩ := by
  induction pieces generalizing l front with
  | nil =>
    rw [Token.toList_layout_nil] at hl
    rw [tokens_of_next_error l _ _ (next_of_unclosed l _ rest d hl h.front_blank hr),
      ← String.length_toList, Token.toList_layout_nil]
  | cons p pieces ih =>
    rw [Token.toList_layout_cons, List.append_assoc, List.append_assoc] at hl
    obtain ⟨hrest, hbare⟩ := (Token.endsApart_cons_iff p pieces h.tail).mp ha
    have he := (Token.endsBefore_append_char_iff p.token (Token.layout p.gap pieces).toList rest
      d).mpr ⟨(Token.endsBefore_iff_apart _ _ _ h.tail).mpr (List.isChain_cons.mp h.apart).1, hbare⟩
    have hn := next_of_token l _ _ p.token hl h.front_blank (h.isToken p List.mem_cons_self) he
    rw [tokens_of_next_token l _ p.token hn]
    refine (ih ⟨_, _⟩ p.gap h.tail rfl hrest).trans ?_
    simp only [← String.length_toList, Token.toList_layout_cons, List.length_append]
    congr 2
    omega

private theorem exists_unclosed_of_failure (l : Lexer) (n : Nat)
    (hf : l.tokens.failure = some ⟨n⟩) : ∃ front pieces d rest, Token.IsLayout front pieces ∧
      l.ahead = (Token.layout front pieces).toList ++ Delimiter.char d :: rest ∧
      n = l.offset + (Token.layout front pieces).length ∧ Token.EndsApart pieces ∧
      Token.upToClosing d.char false rest = none := by
  induction hn : l.ahead.length using Nat.strongRecOn generalizing l with
  | ind k ih =>
    obtain hw | ⟨w, t, rest, hl, hw, ht, he⟩ | ⟨w, d, rest, hl, hw, hr⟩ := l.ahead_cases
    · rw [tokens_of_next_none l _ (next_of_blank l hw)] at hf
      cases hf
    · have hnext := next_of_token l w rest t hl hw ht he
      have hlt := length_next_lt hnext
      rw [tokens_of_next_token l _ t hnext] at hf
      obtain ⟨gap, pieces, d, tail, hp, hrest, rfl, ha, hr⟩ := ih _ (hn ▸ hlt) _ hf rfl
      change rest = _ at hrest
      rw [hrest] at hl he
      obtain ⟨he, hbare⟩ := (Token.endsBefore_append_char_iff t _ tail d).mp he
      have hlayout := Token.IsLayout.cons (String.ofList w) t gap pieces
        (by simpa [Text.IsBlank] using hw) ht hp he
      refine ⟨String.ofList w, ⟨t, gap⟩ :: pieces, d, tail, hlayout, ?_, ?_, ?_, hr⟩
      · rw [Token.toList_layout_cons, String.toList_ofList, List.append_assoc, List.append_assoc]
        exact hl
      · simp only [← String.length_toList, Token.toList_layout_cons, List.length_append,
          String.toList_ofList]
        omega
      · exact (Token.endsApart_cons_iff ⟨t, gap⟩ pieces hp).mpr ⟨ha, hbare⟩
    · rw [tokens_of_next_error l _ _ (next_of_unclosed l w rest d hl hw hr)] at hf
      cases hf
      refine ⟨String.ofList w, [], d, rest, ?_, ?_, ?_, by simp [Token.EndsApart], hr⟩
      · exact ⟨⟨by simpa [Text.IsBlank] using hw, by simp, .nil⟩, by simp⟩
      · rw [Token.toList_layout_nil, String.toList_ofList]
        exact hl
      · rw [← String.length_toList, Token.toList_layout_nil, String.toList_ofList]

end Lexer

/-- The failure of a text is that of its division. -/
theorem tokenize_eq_error_iff_failure (s : String) (e : LexError) :
    tokenize s = .error e ↔ (Tokens.ofString s).failure = some e := by
  simp only [tokenize]
  split
  · next hf => simp [hf]
  · next hf => simp [hf]

/-- A text fails with an offset exactly if a delimiter there opens a name and is never closed. -/
theorem tokenize_eq_error_iff (s : String) (n : Nat) :
    tokenize s = .error ⟨n⟩ ↔ Token.UnclosedAt s n := by
  rw [tokenize_eq_error_iff_failure]
  constructor
  · intro hf
    obtain ⟨front, pieces, d, rest, hp, hl, rfl, ha, hr⟩ :=
      Lexer.exists_unclosed_of_failure (Lexer.start s) n hf
    refine ⟨Token.layout front pieces, d, rest, _, hl, (Nat.zero_add _).symm,
      tokenize_layout front pieces hp, ?_, (Token.upToClosing_eq_none_iff d rest).mp hr⟩
    exact (Token.startsBehind_iff_endsApart front pieces hp).mpr ha
  · rintro ⟨text, d, rest, tokens, hs, rfl, ht, hstart, hr⟩
    obtain ⟨front, pieces, hp, rfl, rfl⟩ := exists_isLayout_of_tokenize text tokens ht
    have ha := (Token.startsBehind_iff_endsApart front pieces hp).mp hstart
    have hf := Lexer.failure_of_unclosed (Lexer.start s) front pieces d rest hp hs ha
      ((Token.upToClosing_eq_none_iff d rest).mpr hr)
    rw [Tokens.ofString, hf, Lexer.start, Nat.zero_add]

/-- The offset of a failure is that of the opening delimiter of the one name that is never closed,
and its reason is always the same. -/
theorem tokenize_eq_error_iff_unclosedAt (s : String) (n : Nat) :
    (tokenize s = .error ⟨n⟩ ↔ Token.UnclosedAt s n) ∧
    (∀ m, Token.UnclosedAt s m → Token.UnclosedAt s n → m = n) ∧
    ∀ e, tokenize s = .error e → e.reason = "unterminated quoted identifier" := by
  refine ⟨tokenize_eq_error_iff s n, ?_, ?_⟩
  · intro m hm hn
    have hm := (tokenize_eq_error_iff s m).mpr hm
    rw [(tokenize_eq_error_iff s n).mpr hn] at hm
    cases hm
    rfl
  · intro e _
    rfl

end SelectFind
