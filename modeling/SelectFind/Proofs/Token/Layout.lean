import SelectFind.Proofs.Token.Kind
import Mathlib.Data.List.Chain

/-!
# The token language

A text is laid out from tokens when it consists of the tokens in order with blanks in front of the
first and behind each. Between a bare token and a token other than the comma there must be at least
one blank; everywhere else the blanks may be missing. The tokens of a text are those that it is laid
out from, and a text that is laid out from no row of tokens has no tokens.
-/

namespace SelectFind

namespace Token

/-- A token and the blanks behind it. -/
structure Piece where
  token : String
  gap : String

namespace Piece

/-- The token and its gap. -/
def text (p : Piece) : String := p.token ++ p.gap

/-- A bare token is parted by a blank from a token that is not the comma. -/
def Apart (p q : Piece) : Prop := IsBareToken p.token → q.token ≠ separator → p.gap ≠ ""

end Piece

/-- The blanks in front, and then each token with the blanks behind it. -/
def layout (front : String) (pieces : List Piece) : String :=
  front ++ String.join (pieces.map Piece.text)

/-- Only blanks stand in front of the pieces and in their gaps, and enough of them. -/
structure IsSpaced (front : String) (pieces : List Piece) : Prop where
  front_blank : Text.IsBlank front
  gap_blank : ∀ p ∈ pieces, Text.IsBlank p.gap
  apart : pieces.IsChain Piece.Apart

/-- Tokens with enough blanks between them. -/
structure IsLayout (front : String) (pieces : List Piece) : Prop
    extends IsSpaced front pieces where
  isToken : ∀ p ∈ pieces, IsToken p.token

/-- Blanks alone lay out no token. -/
theorem toList_layout_nil (front : String) : (layout front []).toList = front.toList := by
  simp [layout]

/-- The gap behind a token is the front of the tokens behind it. -/
theorem toList_layout_cons (front : String) (p : Piece) (pieces : List Piece) :
    (layout front (p :: pieces)).toList =
      front.toList ++ (p.token.toList ++ (layout p.gap pieces).toList) := by
  simp [layout, Piece.text, String.toList_join]

/-- A layout without its first token is a layout. -/
theorem IsLayout.tail (front : String) (p : Piece) (pieces : List Piece)
    (h : IsLayout front (p :: pieces)) : IsLayout p.gap pieces where
  front_blank := h.gap_blank p List.mem_cons_self
  isToken q hq := h.isToken q (List.mem_cons_of_mem p hq)
  gap_blank q hq := h.gap_blank q (List.mem_cons_of_mem p hq)
  apart := h.apart.of_cons

/-- Nothing of what is laid out behind a token continues it exactly if it is apart from the next
token. -/
theorem endsBefore_iff_apart (t gap : String) (pieces : List Piece)
    (h : IsLayout gap pieces) :
    EndsBefore t (layout gap pieces).toList ↔ ∀ q ∈ pieces.head?, Piece.Apart ⟨t, gap⟩ q := by
  -- The next character is a blank of the gap, or it starts the next token if the gap is empty; a
  -- token starts with a bare character unless it is the comma.
  cases hg : gap.toList with
  | cons b bs =>
    have hb : Text.isBlank b = true := h.front_blank b (by simp [hg])
    have hne : gap ≠ "" := by
      rintro rfl
      cases hg
    have hh : (layout gap pieces).toList.head? = some b := by
      simp [layout, hg]
    simp [EndsBefore, Piece.Apart, hh, hne, isBare, hb]
  | nil =>
    obtain rfl := String.toList_eq_nil_iff.mp hg
    cases pieces with
    | nil => simp [EndsBefore, toList_layout_nil]
    | cons q pieces =>
      have hq := h.isToken q List.mem_cons_self
      obtain ⟨c, cs, hc⟩ : ∃ c cs, q.token.toList = c :: cs :=
        List.exists_cons_of_ne_nil fun he ↦ hq.ne_empty _ (String.toList_eq_nil_iff.mp he)
      have hh : (layout "" (q :: pieces)).toList.head? = some c := by
        simp [toList_layout_cons, hc]
      have hs : isBare c = false ↔ q.token = separator := by
        constructor
        · intro hf
          by_contra hn
          have := hq.isBare_head _ hn c (by simp [hc])
          rw [hf] at this
          cases this
        · intro he
          rw [he, toList_separator] at hc
          rw [← (List.cons.inj hc).1]
          decide
      simp [EndsBefore, Piece.Apart, hh, hs]

/-- A token in front of a layout that does not continue it gives a layout. -/
theorem IsLayout.cons (front t gap : String) (pieces : List Piece)
    (hf : Text.IsBlank front) (ht : IsToken t) (h : IsLayout gap pieces)
    (he : EndsBefore t (layout gap pieces).toList) : IsLayout front (⟨t, gap⟩ :: pieces) where
  front_blank := hf
  isToken := List.forall_mem_cons.mpr ⟨ht, h.isToken⟩
  gap_blank := List.forall_mem_cons.mpr ⟨h.front_blank, h.gap_blank⟩
  apart := List.isChain_cons.mpr ⟨(endsBefore_iff_apart t gap pieces h).mp he, h.apart⟩

end Token

/-! ### All tokens -/

namespace Lexer

/-- Behind a token the rest of the text is divided from its end on. -/
theorem tokens_of_next_token (l l' : Lexer) (t : String) (h : l.next = (.ok (some t), l')) :
    l.tokens = ⟨⟨t, l'.offset⟩ :: l'.tokens.spans, l'.tokens.failure⟩ := by
  rw [tokens]
  split
  · next heq => rw [h] at heq; cases heq; rfl
  · next heq => rw [h] at heq; cases heq
  · next heq => rw [h] at heq; cases heq

/-- Where no token is ahead there is none. -/
theorem tokens_of_next_none (l l' : Lexer) (h : l.next = (.ok none, l')) :
    l.tokens = ⟨[], none⟩ := by
  rw [tokens]
  split
  · next heq => rw [h] at heq; cases heq
  · rfl
  · next heq => rw [h] at heq; cases heq

/-- A failure ends the tokens. -/
theorem tokens_of_next_error (l l' : Lexer) (e : LexError) (h : l.next = (.error e, l')) :
    l.tokens = ⟨[], some e⟩ := by
  rw [tokens]
  split
  · next heq => rw [h] at heq; cases heq
  · next heq => rw [h] at heq; cases heq
  · next heq => rw [h] at heq; cases heq; rfl

private theorem tokens_of_isLayout (l : Lexer) (front : String) (pieces : List Token.Piece)
    (h : Token.IsLayout front pieces) (hl : l.ahead = (Token.layout front pieces).toList) :
    l.tokens.failure = none ∧ l.tokens.spans.map Span.token = pieces.map Token.Piece.token := by
  induction pieces generalizing l front with
  | nil =>
    rw [Token.toList_layout_nil] at hl
    rw [tokens_of_next_none l _ (next_of_blank l (hl ▸ h.front_blank))]
    exact ⟨rfl, rfl⟩
  | cons p pieces ih =>
    rw [Token.toList_layout_cons] at hl
    have hp := h.isToken p List.mem_cons_self
    have he : Token.EndsBefore p.token (Token.layout p.gap pieces).toList :=
      (Token.endsBefore_iff_apart _ _ _ h.tail).mpr (List.isChain_cons.mp h.apart).1
    have hn := next_of_token l _ _ p.token hl h.front_blank hp he
    rw [tokens_of_next_token l _ p.token hn]
    obtain ⟨hf, hs⟩ := ih ⟨_, (Token.layout p.gap pieces).toList⟩ p.gap h.tail rfl
    exact ⟨hf, by rw [List.map_cons, List.map_cons, hs]⟩

private theorem exists_isLayout_of_tokens (l : Lexer) (hf : l.tokens.failure = none) :
    ∃ front pieces, Token.IsLayout front pieces ∧ l.ahead = (Token.layout front pieces).toList ∧
      pieces.map Token.Piece.token = l.tokens.spans.map Span.token := by
  induction hn : l.ahead.length using Nat.strongRecOn generalizing l with
  | ind n ih =>
    obtain hw | ⟨w, t, rest, hl, hw, ht, he⟩ | ⟨w, d, rest, hl, hw, hr⟩ := l.ahead_cases
    · rw [tokens_of_next_none l _ (next_of_blank l hw)]
      refine ⟨String.ofList l.ahead, [], ⟨⟨?_, by simp, .nil⟩, by simp⟩, ?_, rfl⟩
      · simpa [Text.IsBlank] using hw
      · simp [Token.layout]
    · have hnext := next_of_token l w rest t hl hw ht he
      have htokens := tokens_of_next_token l _ t hnext
      have hlt := length_next_lt hnext
      rw [htokens] at hf
      obtain ⟨gap, pieces, hp, hrest, hts⟩ := ih _ (hn ▸ hlt) _ hf rfl
      change rest = _ at hrest
      rw [hrest] at hl he
      refine ⟨String.ofList w, ⟨t, gap⟩ :: pieces, ?_, ?_, ?_⟩
      · exact .cons _ t gap pieces (by simpa [Text.IsBlank] using hw) ht hp he
      · rw [Token.toList_layout_cons, String.toList_ofList]
        exact hl
      · rw [htokens, List.map_cons, List.map_cons, hts]
    · rw [tokens_of_next_error l _ _ (next_of_unclosed l w rest d hl hw hr)] at hf
      cases hf

end Lexer

/-- The tokens of a text are those of its division, when that has no failure. -/
theorem tokenize_eq_ok_iff_spans (s : String) (ts : List String) :
    tokenize s = .ok ts ↔
      (Tokens.ofString s).failure = none ∧ (Tokens.ofString s).spans.map Span.token = ts := by
  simp only [tokenize]
  split
  · next hf => simp [hf]
  · next hf => simp [hf]

/-- A text that is laid out from tokens has these tokens. -/
theorem tokenize_layout (front : String) (pieces : List Token.Piece)
    (h : Token.IsLayout front pieces) :
    tokenize (Token.layout front pieces) = .ok (pieces.map Token.Piece.token) :=
  (tokenize_eq_ok_iff_spans _ _).mpr (Lexer.tokens_of_isLayout _ front pieces h rfl)

/-- A text that has tokens is laid out from them. -/
theorem exists_isLayout_of_tokenize (s : String) (ts : List String) (h : tokenize s = .ok ts) :
    ∃ front pieces, Token.IsLayout front pieces ∧ s = Token.layout front pieces ∧
      pieces.map Token.Piece.token = ts := by
  obtain ⟨hf, hs⟩ := (tokenize_eq_ok_iff_spans s ts).mp h
  obtain ⟨front, pieces, hp, hl, ht⟩ := Lexer.exists_isLayout_of_tokens (Lexer.start s) hf
  exact ⟨front, pieces, hp, String.toList_injective hl, ht.trans hs⟩

/-- What a text is divided into are tokens. -/
theorem isToken_of_mem_tokenize (s : String) (ts : List String) (h : tokenize s = .ok ts)
    (t : String) (ht : t ∈ ts) : Token.IsToken t := by
  obtain ⟨front, pieces, hp, _, rfl⟩ := exists_isLayout_of_tokenize s ts h
  obtain ⟨p, hm, rfl⟩ := List.mem_map.mp ht
  exact hp.isToken p hm

/-- The lexer accepts exactly the token language: a text has the tokens that it is laid out from
with enough blanks between them, and none of these is empty. -/
theorem tokenize_eq_ok_iff_layout (s : String) (ts : List String) :
    (tokenize s = .ok ts ↔
      (∀ t ∈ ts, Token.IsToken t) ∧
        ∃ front pieces, Token.IsSpaced front pieces ∧ s = Token.layout front pieces ∧
          pieces.map Token.Piece.token = ts) ∧
    (tokenize s = .ok ts → "" ∉ ts) := by
  refine ⟨⟨?_, ?_⟩, ?_⟩
  · intro h
    obtain ⟨front, pieces, hp, hs, ht⟩ := exists_isLayout_of_tokenize s ts h
    exact ⟨isToken_of_mem_tokenize s ts h, front, pieces, hp.toIsSpaced, hs, ht⟩
  · rintro ⟨ht, front, pieces, hp, rfl, rfl⟩
    exact tokenize_layout front pieces ⟨hp, fun p hm ↦ ht p.token (List.mem_map_of_mem hm)⟩
  · intro h hm
    exact (isToken_of_mem_tokenize s ts h "" hm).ne_empty _ rfl

end SelectFind
