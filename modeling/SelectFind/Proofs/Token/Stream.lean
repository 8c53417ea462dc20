import SelectFind.Log
import SelectFind.Proofs.Token.Unclosed

/-!
# Tokens one call at a time

A lexer may be called again and again, also behind a failure. The calls give the tokens of the text
in order, then its failure once if it has one, and from there on nothing. Each place that a call
leaves is a place in the text: its offset counts the characters that were taken. The end that is
told with a token tells where the token stands, and between two tokens there are only blanks.
-/

namespace SelectFind

/-- The characters of a text from one offset up to another. -/
def Text.slice (s : String) (start stop : Nat) : List Char := (s.toList.take stop).drop start

private theorem Text.slice_eq (s : String) (front middle back : List Char)
    (h : s.toList = front ++ (middle ++ back)) :
    slice s front.length (front.length + middle.length) = middle := by
  have ht : s.toList.take (front.length + middle.length) = front ++ middle := by
    rw [h, ← List.append_assoc]
    exact List.take_left' (List.length_append ..)
  rw [slice, ht, List.drop_left]

namespace Span

/-- The offset of the first character of the token. -/
def start (p : Span) : Nat := p.stop - p.token.length

/-- The token of the span has a character, and stands in the text where the span says. -/
structure IsIn (p : Span) (s : String) : Prop where
  ne_empty : p.token ≠ ""
  start_add : p.start + p.token.length = p.stop
  stop_le : p.stop ≤ s.length
  slice : Text.slice s p.start p.stop = p.token.toList

/-- The second span is behind the first, and only blanks lie between them. -/
structure Precedes (s : String) (p q : Span) : Prop where
  stop_le : p.stop ≤ q.start
  blank : ∀ c ∈ Text.slice s p.stop q.start, Text.isBlank c = true

end Span

namespace Lexer

/-! ### One call -/

/-- The lexer is a place in the text: its offset is the number of characters behind it. -/
def IsIn (l : Lexer) (s : String) : Prop :=
  ∃ taken, s.toList = taken ++ l.ahead ∧ l.offset = taken.length

variable {l : Lexer} {s : String}

private theorem isIn_start (s : String) : (start s).IsIn s := ⟨[], rfl, rfl⟩

private theorem IsIn.pass (h : l.IsIn s) (passed rest : List Char) (ha : l.ahead = passed ++ rest) :
    IsIn ⟨l.offset + passed.length, rest⟩ s := by
  obtain ⟨taken, hs, ho⟩ := h
  refine ⟨taken ++ passed, ?_, ?_⟩
  · rw [hs, ha, List.append_assoc]
  · rw [ho, List.length_append]

private theorem IsIn.offset_add (h : l.IsIn s) : l.offset + l.ahead.length = s.length := by
  obtain ⟨taken, hs, ho⟩ := h
  rw [← String.length_toList, hs, List.length_append, ho]

private theorem IsIn.span (h : l.IsIn s) (w rest : List Char) (t : String)
    (hl : l.ahead = w ++ (t.toList ++ rest)) (hw : ∀ c ∈ w, Text.isBlank c = true)
    (ht : t ≠ "") (stop : Nat) (hstop : stop = l.offset + w.length + t.length) :
    Span.IsIn ⟨t, stop⟩ s ∧ Span.Precedes s ⟨"", l.offset⟩ ⟨t, stop⟩ := by
  have hsum := h.offset_add
  obtain ⟨taken, hs, ho⟩ := h
  rw [hl] at hs hsum
  simp only [List.length_append, String.length_toList] at hsum
  have hstart : Span.start ⟨t, stop⟩ = taken.length + w.length := by
    simp only [Span.start]
    omega
  have hend : stop = (taken ++ w).length + t.toList.length := by
    rw [List.length_append, String.length_toList]
    omega
  refine ⟨⟨ht, ?_, ?_, ?_⟩, ?_, ?_⟩
  · simp only [hstart]
    omega
  · simp only
    omega
  · rw [hstart, ← List.length_append, hend]
    exact Text.slice_eq s (taken ++ w) t.toList rest (by rw [hs, List.append_assoc])
  · simp only [hstart]
    omega
  · rw [hstart, ho, Text.slice_eq s taken w (t.toList ++ rest) hs]
    exact hw

/-- A call in a text gives a token that follows, or it takes all that is ahead and gives nothing or
a failure. -/
theorem IsIn.next_cases (h : l.IsIn s) :
    (∃ t l', l.next = (.ok (some t), l') ∧ l'.IsIn s ∧ Span.IsIn ⟨t, l'.offset⟩ s ∧
      Span.Precedes s ⟨"", l.offset⟩ ⟨t, l'.offset⟩) ∨
    (∃ r l', l.next = (r, l') ∧ (r = .ok none ∨ ∃ e, r = .error e) ∧ l'.IsIn s ∧
      l'.ahead = []) := by
  have hend : IsIn ⟨l.offset + l.ahead.length, []⟩ s :=
    h.pass l.ahead [] (List.append_nil _).symm
  obtain hw | ⟨w, t, rest, hl, hw, ht, he⟩ | ⟨w, d, rest, hl, hw, hr⟩ := l.ahead_cases
  · exact .inr ⟨_, _, next_of_blank l hw, .inl rfl, hend, rfl⟩
  · refine .inl ⟨t, _, next_of_token l w rest t hl hw ht he, ?_, ?_⟩
    · have hp := h.pass (w ++ t.toList) rest (by rw [hl, List.append_assoc])
      rwa [List.length_append, ← Nat.add_assoc] at hp
    · exact h.span w rest t hl hw (ht.ne_empty t) _ (by rw [String.length_toList])
  · exact .inr ⟨_, _, next_of_unclosed l w rest d hl hw hr, .inr ⟨_, rfl⟩, hend, rfl⟩

private theorem IsIn.next (h : l.IsIn s) : l.next.2.IsIn s := by
  obtain ⟨t, l', hnext, hin, -⟩ | ⟨r, l', hnext, -, hin, -⟩ := h.next_cases
  · rw [hnext]
    exact hin
  · rw [hnext]
    exact hin

private theorem IsIn.offset_lt (h : l.IsIn s) (t : String) (l' : Lexer)
    (hnext : l.next = (.ok (some t), l')) : l.offset < l'.offset := by
  have hin : l'.IsIn s := by
    have := h.next
    rwa [hnext] at this
  have hlt := length_next_lt hnext
  have hbefore := h.offset_add
  have hafter := hin.offset_add
  omega

/-! ### Where the tokens stand -/

private theorem IsIn.spans (h : l.IsIn s) :
    (∀ p ∈ l.tokens.spans, p.IsIn s) ∧
      (⟨"", l.offset⟩ :: l.tokens.spans).IsChain (Span.Precedes s) := by
  induction hn : l.ahead.length using Nat.strongRecOn generalizing l with
  | ind n ih =>
    obtain ⟨t, l', hnext, hin, hp, hfollows⟩ | ⟨r, l', hnext, hr, -, -⟩ := h.next_cases
    · obtain ⟨hall, hchain⟩ := ih _ (hn ▸ length_next_lt hnext) hin rfl
      rw [tokens_of_next_token l l' t hnext]
      refine ⟨List.forall_mem_cons.mpr ⟨hp, hall⟩, .cons_cons hfollows ?_⟩
      -- What follows the token follows its end.
      apply hchain.imp_head
      intro q hq
      exact ⟨hq.stop_le, hq.blank⟩
    · have hnone : l.tokens.spans = [] := by
        obtain rfl | ⟨e, rfl⟩ := hr
        · rw [tokens_of_next_none l l' hnext]
        · rw [tokens_of_next_error l l' e hnext]
      rw [hnone]
      exact ⟨by simp, .singleton _⟩

end Lexer

/-! ### Calls one after the other -/

/-- What calls give from the tokens of a text of some length, each with the offset that it leaves:
the tokens in order, the failure once if there is one, and then nothing, `idle` times. -/
def Tokens.calls (tokens : Tokens) (length idle : Nat) :
    List (Except LexError (Option String) × Nat) :=
  tokens.spans.map (fun p ↦ (.ok (some p.token), p.stop)) ++
    tokens.failure.toList.map (fun e ↦ (.error e, length)) ++
    List.replicate idle (.ok none, length)

namespace Lexer

variable {l : Lexer} {s : String}

private theorem IsIn.run_eq (h : l.IsIn s) (n idle : Nat) (hn : n ≤ idle) :
    (run n l).map (fun r ↦ (r.1, r.2.offset)) = (l.tokens.calls s.length idle).take n := by
  induction n generalizing l with
  | zero => rfl
  | succ n ih =>
    have hle : n ≤ idle := Nat.le_of_succ_le hn
    obtain ⟨t, l', hnext, hin, -, -⟩ | ⟨r, l', hnext, hr, hin, hnil⟩ := h.next_cases
    · rw [run, hnext, List.map_cons, ih hin hle, tokens_of_next_token l l' t hnext]
      rfl
    · -- At the end of the text there is nothing, so every later call gives nothing.
      have hend : l'.offset = s.length := by
        have := hin.offset_add
        rwa [hnil] at this
      have hrest : l'.tokens = ⟨[], none⟩ :=
        tokens_of_next_none l' _ (next_of_blank l' (by simp [hnil]))
      rw [run, hnext, List.map_cons, ih hin hle, hrest, hend]
      obtain rfl | ⟨e, rfl⟩ := hr
      · rw [tokens_of_next_none l l' hnext]
        simp [Tokens.calls, List.take_replicate, hn, hle, List.replicate_succ]
      · rw [tokens_of_next_error l l' e hnext]
        rfl

/-- Every call from a place in a text leaves a place in it. -/
theorem IsIn.run_isIn (h : l.IsIn s) (n : Nat) : ∀ r ∈ run n l, r.2.IsIn s := by
  induction n generalizing l with
  | zero => simp [run]
  | succ n ih => exact List.forall_mem_cons.mpr ⟨h.next, ih h.next⟩

private theorem IsIn.run_offset_lt (h : l.IsIn s) (n k : Nat) (before after : Lexer) (t : String)
    (hb : (l :: (run n l).map Prod.snd)[k]? = some before)
    (ha : (run n l)[k]? = some (.ok (some t), after)) : before.offset < after.offset := by
  induction n generalizing l k with
  | zero => simp [run] at ha
  | succ n ih =>
    cases k with
    | zero =>
      obtain rfl : l = before := Option.some.inj hb
      exact h.offset_lt t after (Option.some.inj ha)
    | succ k => exact ih h.next k hb ha

private theorem IsIn.runEvents_eq (h : l.IsIn s) (n : Nat) :
    runEvents (run n l) = l.tokens.events.take n := by
  induction n generalizing l with
  | zero => rfl
  | succ n ih =>
    obtain ⟨t, l', hnext, hin, -, -⟩ | ⟨r, l', hnext, hr, hin, hnil⟩ := h.next_cases
    · have htail := ih hin
      rw [run, hnext, tokens_of_next_token l l' t hnext]
      simp only [runEvents, Tokens.events, List.filterMap_cons, List.map_cons,
        List.take_succ_cons] at htail ⊢
      rw [htail]
    · have hrest : l'.tokens = ⟨[], none⟩ :=
        tokens_of_next_none l' _ (next_of_blank l' (by simp [hnil]))
      have htail := ih hin
      rw [hrest] at htail
      obtain rfl | ⟨e, rfl⟩ := hr
      · rw [run, hnext, tokens_of_next_none l l' hnext]
        simpa [runEvents, Tokens.events] using htail
      · rw [run, hnext, tokens_of_next_error l l' e hnext]
        simpa [runEvents, Tokens.events] using htail

/-- What `n` calls on a text, one after the other whether or not they fail, have to do with the
division of the whole text into tokens. -/
structure StreamLaw (s : String) (n : Nat) : Prop where
  /-- The calls give the tokens, the failure if there is one, and then nothing. -/
  results : (run n (start s)).map (fun r ↦ (r.1, r.2.offset)) =
    ((Tokens.ofString s).calls s.length n).take n
  /-- Without a failure the tokens are those of the text. -/
  tokens : ∀ ts, tokenize s = .ok ts ↔
    (Tokens.ofString s).failure = none ∧ (Tokens.ofString s).spans.map Span.token = ts
  /-- The failure is that of the text. -/
  failure : ∀ e, tokenize s = .error e ↔ (Tokens.ofString s).failure = some e
  /-- The offset that a call leaves counts the characters that were taken. -/
  isIn : ∀ r ∈ run n (start s), r.2.IsIn s
  /-- A call that gives a token takes at least one character. -/
  offset_lt : ∀ (k : Nat) (before after : Lexer) (t : String),
    (start s :: (run n (start s)).map Prod.snd)[k]? = some before →
    (run n (start s))[k]? = some (.ok (some t), after) → before.offset < after.offset
  /-- The ends that are told with the tokens are those of the whole text. -/
  events : runEvents (run n (start s)) = (Tokens.ofString s).events.take n
  /-- Each token stands where its end says. -/
  spans : ∀ p ∈ (Tokens.ofString s).spans, p.IsIn s
  /-- Each token is behind the one before it, and only blanks lie between them and in front of the
  first. -/
  apart : (⟨"", 0⟩ :: (Tokens.ofString s).spans).IsChain (Span.Precedes s)

/-- Any number of calls on a text agrees with its division into tokens. -/
theorem run_start_agrees_with_tokenize (s : String) (n : Nat) : StreamLaw s n := by
  have h := isIn_start s
  obtain ⟨hspans, hapart⟩ := h.spans
  exact
    { results := h.run_eq n n (Nat.le_refl n)
      tokens := tokenize_eq_ok_iff_spans s
      failure := tokenize_eq_error_iff_failure s
      isIn := h.run_isIn n
      offset_lt := h.run_offset_lt n
      events := h.runEvents_eq n
      spans := hspans
      apart := hapart }

end Lexer
end SelectFind
