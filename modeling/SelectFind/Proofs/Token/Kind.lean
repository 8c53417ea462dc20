import SelectFind.Proofs.Token.Enclosed

/-!
# The kinds of token

A token is bare, quoted or the comma. Where no blank is ahead, `Token.startingWith` cuts off a token
that nothing behind it continues; where blanks are ahead, `Lexer.next` passes them first. So a call
of the lexer meets one of three texts: blanks only, a token behind blanks, or a delimiter behind
blanks that is never closed.
-/

namespace SelectFind

namespace Text

/-- Every character of the text is blank. -/
def IsBlank (s : String) : Prop := ∀ c ∈ s.toList, isBlank c = true

end Text

namespace Token

/-- A bare token has a character, holds no blank and no comma, and starts with no delimiter. -/
structure IsBareToken (t : String) : Prop where
  ne_empty : t ≠ ""
  plain : ∀ c ∈ t.toList, Text.isBlank c = false ∧ c ≠ comma
  unquoted : ∀ d : Delimiter, t.toList.head? ≠ some d.char

/-- A quoted token is a name between two equal delimiters that enclose it. -/
def IsQuotedToken (t : String) : Prop :=
  ∃ (d : Delimiter) (name : String), d.Encloses name.toList ∧ t = d.quote name

/-- The three kinds of token. -/
def IsToken (t : String) : Prop := IsBareToken t ∨ IsQuotedToken t ∨ t = separator

/-- Nothing at the start of the characters continues the token. -/
def EndsBefore (t : String) (rest : List Char) : Prop :=
  IsBareToken t → ∀ c ∈ rest.head?, isBare c = false

/-- The separator is the comma alone. -/
theorem toList_separator : separator.toList = [comma] := rfl

/-- Bare characters are neither blank nor the comma. -/
theorem isBare_iff (c : Char) : isBare c = true ↔ Text.isBlank c = false ∧ c ≠ comma := by
  simp [isBare, isMark]

/-- A delimiter is neither blank nor the comma. -/
theorem isBare_char (d : Delimiter) : isBare d.char = true := by
  cases d <;> decide

/-- No delimiter is blank. -/
theorem isBlank_char (d : Delimiter) : Text.isBlank d.char = false :=
  ((isBare_iff d.char).mp (isBare_char d)).1

/-- No token is empty. -/
theorem IsToken.ne_empty (t : String) (h : IsToken t) : t ≠ "" := by
  rcases h with hb | ⟨d, name, _, rfl⟩ | rfl
  · exact hb.ne_empty
  · intro he
    have := congrArg String.toList he
    simp at this
  · decide

/-- A token other than the comma starts with a bare character. -/
theorem IsToken.isBare_head (t : String) (h : IsToken t) (hs : t ≠ separator) (c : Char)
    (hc : c ∈ t.toList.head?) : isBare c = true := by
  rcases h with hb | ⟨d, name, _, rfl⟩ | rfl
  · exact (isBare_iff c).mpr (hb.plain c (List.mem_of_mem_head? hc))
  · rw [Delimiter.toList_quote, List.head?_cons, Option.mem_some_iff] at hc
    rw [← hc]
    exact isBare_char d
  · exact absurd rfl hs

private theorem IsToken.isBlank_head (t : String) (h : IsToken t) (c : Char)
    (hc : c ∈ t.toList.head?) : Text.isBlank c = false := by
  by_cases hs : t = separator
  · rw [hs, toList_separator, List.head?_cons, Option.mem_some_iff] at hc
    rw [← hc]
    decide
  · exact ((isBare_iff c).mp (h.isBare_head t hs c hc)).1

/-! ### One token -/

-- The longest run is the row in front when the character behind it is no member of the class.
private theorem takeWhile_append_eq (p : Char → Bool) (cs rest : List Char)
    (hcs : ∀ c ∈ cs, p c = true) (hr : ∀ c ∈ rest.head?, p c = false) :
    (cs ++ rest).takeWhile p = cs := by
  have ht : rest.takeWhile p = [] := by
    cases rest with
    | nil => rfl
    | cons x xs => exact List.takeWhile_cons_of_neg (by simp [hr x rfl])
  rw [List.takeWhile_append_of_pos hcs, ht, List.append_nil]

private theorem startingWith_bare (c : Char) (cs rest : List Char)
    (hb : IsBareToken (String.ofList (c :: cs)))
    (he : EndsBefore (String.ofList (c :: cs)) rest) :
    startingWith c (cs ++ rest) = some (c :: cs) := by
  have hc : Delimiter.ofChar? c = none := by
    apply Delimiter.ofChar?_eq_none_iff.mpr
    intro d hd
    exact hb.unquoted d (by simp [hd])
  have hp (x : Char) (hx : x ∈ c :: cs) : isBare x = true :=
    (isBare_iff x).mpr (hb.plain x (by simpa using hx))
  have hm : isMark c = false := by
    have := hp c List.mem_cons_self
    simpa [isMark] using ((isBare_iff c).mp this).2
  simp only [startingWith, hc, hm]
  rw [takeWhile_append_eq isBare cs rest (fun x hx ↦ hp x (List.mem_cons_of_mem c hx)) (he hb)]
  simp

private theorem startingWith_quoted (d : Delimiter) (body rest : List Char)
    (h : d.Encloses body) :
    startingWith d.char (body ++ d.char :: rest) = some (d.char :: (body ++ [d.char])) := by
  simp [startingWith, upToClosing_of_encloses d body rest h]

/-- A token is cut off whole where nothing behind it continues it. -/
theorem startingWith_of_isToken (t : String) (c : Char) (cs rest : List Char) (ht : IsToken t)
    (hc : t.toList = c :: cs) (he : EndsBefore t rest) :
    startingWith c (cs ++ rest) = some (c :: cs) := by
  have hl : t = String.ofList (c :: cs) := by rw [← hc, String.ofList_toList]
  rcases ht with hb | ⟨d, name, hn, rfl⟩ | rfl
  · rw [hl] at hb he
    exact startingWith_bare c cs rest hb he
  · rw [Delimiter.toList_quote, List.cons.injEq] at hc
    obtain ⟨rfl, rfl⟩ := hc
    rw [List.append_assoc, List.singleton_append]
    exact startingWith_quoted d name.toList rest hn
  · obtain ⟨rfl, rfl⟩ := List.cons.inj (toList_separator.symm.trans hc)
    rfl

/-- What is cut off is a token, and nothing behind it continues it. -/
theorem isToken_of_startingWith (c : Char) (cs token : List Char)
    (hc : Text.isBlank c = false) (h : startingWith c cs = some token) :
    IsToken (String.ofList token) ∧
      ∃ rest, c :: cs = token ++ rest ∧ EndsBefore (String.ofList token) rest := by
  unfold startingWith at h
  split at h
  · next d hd =>
    have hd := Delimiter.ofChar?_eq_some_iff.mp hd
    obtain ⟨inner, hi, rfl⟩ := Option.map_eq_some_iff.mp h
    obtain ⟨body, rest, hb, rfl, rfl⟩ := (upToClosing_eq_some_iff d cs inner).mp hi
    refine ⟨.inr (.inl ⟨d, String.ofList body, by simpa using hb, ?_⟩), rest, rfl, ?_⟩
    · rw [Delimiter.quote, String.toList_ofList, hd]; rfl
    · intro hbare
      exact absurd (by simp [hd]) (hbare.unquoted d)
  · next hd =>
    split at h
    · next hm =>
      cases h
      have : c = comma := by simpa [isMark] using hm
      subst this
      refine ⟨.inr (.inr rfl), cs, rfl, ?_⟩
      intro hbare
      exact absurd rfl (hbare.plain comma (by simp)).2
    · next hm =>
      cases h
      have hplain (x : Char) (hx : x ∈ c :: cs.takeWhile isBare) :
          Text.isBlank x = false ∧ x ≠ comma := by
        rcases List.mem_cons.mp hx with rfl | hx
        · exact ⟨hc, by simpa [isMark] using hm⟩
        · exact (isBare_iff x).mp (List.all_eq_true.mp List.all_takeWhile x hx)
      refine ⟨.inl ⟨by simp, by simpa using hplain, ?_⟩, cs.dropWhile isBare, by simp, ?_⟩
      · intro d hh
        exact Delimiter.ofChar?_eq_none_iff.mp hd d (by simpa using hh)
      · intro _ x hx
        have := List.head?_dropWhile_not isBare cs
        rw [hx] at this
        simpa using this

end Token

/-! ### One call of the lexer -/

namespace Lexer

/-- Blanks are passed up to the first character that is none. -/
theorem skipBlanks_eq (l : Lexer) (w rest : List Char) (hl : l.ahead = w ++ rest)
    (hw : ∀ c ∈ w, Text.isBlank c = true) (hr : ∀ c ∈ rest.head?, Text.isBlank c = false) :
    l.skipBlanks = ⟨l.offset + w.length, rest⟩ := by
  have ht := Token.takeWhile_append_eq Text.isBlank w rest hw hr
  simp [skipBlanks, advance, hl, ht]

/-- Where only blanks are ahead there is no token, and the call ends behind them. -/
theorem next_of_blank (l : Lexer) (hw : ∀ c ∈ l.ahead, Text.isBlank c = true) :
    l.next = (.ok none, ⟨l.offset + l.ahead.length, []⟩) := by
  rw [next, skipBlanks_eq l l.ahead [] (by simp) hw (by simp)]
  rfl

/-- A token behind blanks is taken if nothing behind it continues it. -/
theorem next_of_token (l : Lexer) (w rest : List Char) (t : String)
    (hl : l.ahead = w ++ (t.toList ++ rest)) (hw : ∀ c ∈ w, Text.isBlank c = true)
    (ht : Token.IsToken t) (he : Token.EndsBefore t rest) :
    l.next = (.ok (some t), ⟨l.offset + w.length + t.toList.length, rest⟩) := by
  cases hc : t.toList with
  | nil => exact absurd (String.toList_eq_nil_iff.mp hc) (ht.ne_empty t)
  | cons c cs =>
    have hb : Text.isBlank c = false := ht.isBlank_head t c (by simp [hc])
    rw [hc] at hl
    rw [next, skipBlanks_eq l w _ hl hw (by simpa using hb)]
    simp only [take, List.cons_append, Token.startingWith_of_isToken t c cs rest ht hc he]
    have hs : String.ofList (c :: cs) = t := by rw [← hc, String.ofList_toList]
    simp [advance, hs]

/-- A delimiter behind blanks that is never closed is a failure there, and nothing stays ahead. -/
theorem next_of_unclosed (l : Lexer) (w rest : List Char) (d : Delimiter)
    (hl : l.ahead = w ++ d.char :: rest) (hw : ∀ c ∈ w, Text.isBlank c = true)
    (hr : Token.upToClosing d.char false rest = none) :
    l.next = (.error ⟨l.offset + w.length⟩, ⟨l.offset + l.ahead.length, []⟩) := by
  rw [next, skipBlanks_eq l w _ hl hw (by simp [Token.isBlank_char])]
  simp only [take, Token.startingWith, Delimiter.ofChar?_char, hr, Option.map_none]
  simp [toEnd, advance, hl, Nat.add_assoc]

/-- A call meets blanks only, a token behind blanks, or a delimiter that is never closed. -/
theorem ahead_cases (l : Lexer) :
    (∀ c ∈ l.ahead, Text.isBlank c = true) ∨
    (∃ w t rest, l.ahead = w ++ (String.toList t ++ rest) ∧ (∀ c ∈ w, Text.isBlank c = true) ∧
      Token.IsToken t ∧ Token.EndsBefore t rest) ∨
    (∃ w d rest, l.ahead = w ++ Delimiter.char d :: rest ∧ (∀ c ∈ w, Text.isBlank c = true) ∧
      Token.upToClosing d.char false rest = none) := by
  have hw : ∀ c ∈ l.ahead.takeWhile Text.isBlank, Text.isBlank c = true :=
    List.all_eq_true.mp List.all_takeWhile
  have hl : l.ahead = l.ahead.takeWhile Text.isBlank ++ l.ahead.dropWhile Text.isBlank :=
    List.takeWhile_append_dropWhile.symm
  cases hr : l.ahead.dropWhile Text.isBlank with
  | nil =>
    rw [hr, List.append_nil] at hl
    left
    rw [hl]
    exact hw
  | cons c cs =>
    have hc : Text.isBlank c = false := by
      have := List.head?_dropWhile_not Text.isBlank l.ahead
      simpa [hr] using this
    rw [hr] at hl
    cases hs : Token.startingWith c cs with
    | some token =>
      obtain ⟨ht, rest, hrest, he⟩ := Token.isToken_of_startingWith c cs token hc hs
      refine .inr (.inl ⟨_, String.ofList token, rest, ?_, hw, ht, he⟩)
      rw [String.toList_ofList, ← hrest]
      exact hl
    | none =>
      unfold Token.startingWith at hs
      split at hs
      · next d hd =>
        rw [Delimiter.ofChar?_eq_some_iff.mp hd] at hl
        exact .inr (.inr ⟨_, d, cs, hl, hw, Option.map_eq_none_iff.mp hs⟩)
      · split at hs <;> cases hs

end Lexer
end SelectFind
