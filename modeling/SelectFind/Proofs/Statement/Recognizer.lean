import SelectFind.Statement.Parser

/-!
# Recognizers with one token in view

A grammar relates rows of tokens to the values that they spell. A parser recognizes a grammar if a
success passes a row of it, and if a failure stops at a token before which a row of the grammar
could still be completed. What such a parser does is decided by the tokens that it passes and by the
first one that it does not pass: whatever follows these makes no difference. The notion is closed
under running one parser behind another, so it is shown for single tokens and for each choice by the
token in view, and nowhere else.
-/

namespace SelectFind

/-- The fault is that the tokens ended. -/
def Fault.IsEnded (fault : Fault) : Prop := ∃ expected, fault = .ended expected

namespace Parser

/-- Rows of tokens and the values that they spell. -/
abbrev Grammar (α : Type) := List String → α → Prop

/-- What is left of a grammar behind the tokens that were passed. -/
def Grammar.after {α : Type} (g : Grammar α) (passed : List String) : Grammar α :=
  fun tokens a ↦ g (passed ++ tokens) a

/-- What a result says of the tokens that were passed and of those ahead: a success has passed a row
of the grammar; a failure has passed the start of one, names the token ahead by its index, and is
the end of the tokens exactly if none is ahead. -/
def Outcome {α : Type} (g : Grammar α) (position : Nat) (passed rest : List String) :
    Except ParseError α → Prop
  | .ok a => g passed a
  | .error e =>
    (∃ more a, g (passed ++ more) a) ∧ e.index = position + passed.length ∧
      (e.fault.IsEnded ↔ rest = [])

/-- The parser recognizes the grammar on one row of tokens: it passes a part of them, its result
says the truth of that part, and the result is the same for any tokens that start with the part
passed and the token in view behind it. -/
def RecognizesAt {α : Type} (p : Parser α) (g : Grammar α) (position : Nat)
    (tokens : List String) : Prop :=
  ∃ (passed rest : List String) (r : Except ParseError α), tokens = passed ++ rest ∧
    Outcome g position passed rest r ∧
    ∀ rest' : List String, rest'.head? = rest.head? →
      p.runFrom ⟨position, passed ++ rest'⟩ = (r, ⟨position + passed.length, rest'⟩)

/-- The parser recognizes the grammar, which spells some value, from every place. -/
structure Recognizes {α : Type} (p : Parser α) (g : Grammar α) : Prop where
  inhabited : ∃ tokens a, g tokens a
  recognizesAt : ∀ position tokens, p.RecognizesAt g position tokens

/-! ### Closure -/

variable {α β : Type}

/-- A parser that does the same for every row with the same start recognizes the same. -/
theorem RecognizesAt.of_head {p q : Parser α} {g : Grammar α} {position : Nat}
    {tokens : List String} (h : q.RecognizesAt g position tokens)
    (he : ∀ tokens', tokens'.head? = tokens.head? →
      p.runFrom ⟨position, tokens'⟩ = q.runFrom ⟨position, tokens'⟩) :
    p.RecognizesAt g position tokens := by
  obtain ⟨passed, rest, r, rfl, ho, hr⟩ := h
  refine ⟨passed, rest, r, rfl, ho, ?_⟩
  intro rest' hh
  rw [he, hr rest' hh]
  rw [List.head?_append, List.head?_append, hh]

/-- A parser that does the same behind the token in view recognizes the same. -/
theorem RecognizesAt.of_cons {p q : Parser α} {g : Grammar α} {position : Nat} {t : String}
    {tokens : List String}
    (he : ∀ tokens', p.runFrom ⟨position, t :: tokens'⟩ = q.runFrom ⟨position, t :: tokens'⟩)
    (h : q.RecognizesAt g position (t :: tokens)) : p.RecognizesAt g position (t :: tokens) := by
  apply h.of_head
  intro tokens' hh
  obtain ⟨tokens', rfl⟩ := List.head?_eq_some_iff.mp hh
  exact he tokens'

private theorem RecognizesAt.mono {p : Parser α} {g g' : Grammar α} {position : Nat}
    {tokens : List String} (h : p.RecognizesAt g position tokens)
    (hg : ∀ tokens a, g tokens a → g' tokens a) : p.RecognizesAt g' position tokens := by
  obtain ⟨passed, rest, r, rfl, ho, hr⟩ := h
  refine ⟨passed, rest, r, rfl, ?_, hr⟩
  cases r with
  | ok a => exact hg passed a ho
  | error e =>
    obtain ⟨⟨more, a, ha⟩, he⟩ := ho
    exact ⟨⟨more, a, hg _ a ha⟩, he⟩

/-- A grammar may be replaced by one with more rows, from every place. -/
theorem Recognizes.mono {p : Parser α} {g g' : Grammar α} (h : p.Recognizes g)
    (hg : ∀ tokens a, g tokens a → g' tokens a) : p.Recognizes g' where
  inhabited := by
    obtain ⟨tokens, a, ha⟩ := h.inhabited
    exact ⟨tokens, a, hg tokens a ha⟩
  recognizesAt position tokens := (h.recognizesAt position tokens).mono hg

/-- Running one parser behind another recognizes a grammar if, wherever the first can stop, the
second recognizes what is left of it. -/
theorem RecognizesAt.bind {p : Parser α} {f : α → Parser β} {g : Grammar α} {k : Grammar β}
    {position : Nat} {tokens : List String} (hp : p.RecognizesAt g position tokens)
    (hi : ∀ first a, g first a → ∃ second b, k.after first second b)
    (hf : ∀ first rest a, tokens = first ++ rest → g first a →
      (f a).RecognizesAt (k.after first) (position + first.length) rest) :
    (p >>= f).RecognizesAt k position tokens := by
  obtain ⟨first, rest, r, rfl, ho, hr⟩ := hp
  cases r with
  | error e =>
    obtain ⟨⟨more, a, ha⟩, he⟩ := ho
    obtain ⟨second, b, hb⟩ := hi (first ++ more) a ha
    refine ⟨first, rest, .error e, rfl, ⟨⟨more ++ second, b, ?_⟩, he⟩, ?_⟩
    · rw [← List.append_assoc]
      exact hb
    · intro rest' hh
      exact runFrom_bind_of_error (hr rest' hh) f
  | ok a =>
    obtain ⟨second, rest, r, rfl, ho', hr'⟩ := hf first rest a rfl ho
    refine ⟨first ++ second, rest, r, (List.append_assoc _ _ _).symm, ?_, ?_⟩
    · cases r with
      | ok b => exact ho'
      | error e =>
        obtain ⟨⟨more, b, hb⟩, hi, he⟩ := ho'
        refine ⟨⟨more, b, ?_⟩, ?_, he⟩
        · rw [List.append_assoc]
          exact hb
        · rw [hi, List.length_append, Nat.add_assoc]
    · -- The second parser starts with the token in view of the first, so the tokens behind its own
      -- token in view matter to neither.
      intro rest' hh
      have hv : (second ++ rest').head? = (second ++ rest).head? := by
        rw [List.head?_append, List.head?_append, hh]
      rw [List.append_assoc, runFrom_bind_of_ok (hr (second ++ rest') hv) f, hr' rest' hh,
        List.length_append, Nat.add_assoc]

/-- Running one parser behind another recognizes a grammar, from every place, if the second
recognizes what is left of it behind the first. -/
theorem Recognizes.bind {p : Parser α} {f : α → Parser β} {g : Grammar α} {k : Grammar β}
    (hp : p.Recognizes g) (hf : ∀ first a, g first a → (f a).Recognizes (k.after first)) :
    (p >>= f).Recognizes k where
  inhabited := by
    obtain ⟨first, a, ha⟩ := hp.inhabited
    obtain ⟨second, b, hb⟩ := (hf first a ha).inhabited
    exact ⟨first ++ second, b, hb⟩
  recognizesAt position tokens :=
    (hp.recognizesAt position tokens).bind (fun first a ha ↦ (hf first a ha).inhabited)
      fun first rest a _ ha ↦ (hf first a ha).recognizesAt (position + first.length) rest

/-- A success of a recognizer has passed a row of the grammar. -/
theorem Recognizes.passed {p : Parser α} {g : Grammar α} (hp : p.Recognizes g) {position : Nat}
    {tokens : List String} {a : α} {reached : Cursor}
    (h : p.runFrom ⟨position, tokens⟩ = (.ok a, reached)) :
    ∃ passed, tokens = passed ++ reached.ahead ∧ reached.position = position + passed.length ∧
      g passed a := by
  obtain ⟨passed, rest, r, rfl, ho, hr⟩ := hp.recognizesAt position tokens
  rw [hr rest rfl] at h
  cases h
  exact ⟨passed, rfl, rfl, ho⟩

/-- A value without a parser recognizes a grammar in which the empty row spells it. -/
theorem recognizes_pure (a : α) (g : Grammar α) (h : g [] a) :
    (pure a : Parser α).Recognizes g where
  inhabited := ⟨[], a, h⟩
  recognizesAt _ tokens := ⟨[], tokens, .ok a, rfl, h, fun _ _ ↦ rfl⟩

/-- A parser that misses a token at the end of the tokens recognizes any grammar there. -/
theorem recognizesAt_of_ended (p : Parser α) (g : Grammar α) (position : Nat)
    (expected : Expected) (hg : ∃ tokens a, g tokens a)
    (hp : p.runFrom ⟨position, []⟩ = (.error ⟨position, .ended expected⟩, ⟨position, []⟩)) :
    p.RecognizesAt g position [] := by
  refine ⟨[], [], .error ⟨position, .ended expected⟩, rfl, ⟨hg, rfl, ?_⟩, ?_⟩
  · exact ⟨fun _ ↦ rfl, fun _ ↦ ⟨expected, rfl⟩⟩
  · intro rest' hh
    rw [List.head?_eq_none_iff.mp hh]
    exact hp

/-- A parser that refuses the token in view recognizes any grammar there. -/
theorem recognizesAt_of_fault (p : Parser α) (g : Grammar α) (position : Nat) (t : String)
    (tokens : List String) (fault : Fault) (hg : ∃ tokens a, g tokens a) (hf : ¬fault.IsEnded)
    (hp : ∀ tokens', p.runFrom ⟨position, t :: tokens'⟩ =
      (.error ⟨position, fault⟩, ⟨position, t :: tokens'⟩)) :
    p.RecognizesAt g position (t :: tokens) := by
  refine ⟨[], t :: tokens, .error ⟨position, fault⟩, rfl, ⟨hg, rfl, ?_⟩, ?_⟩
  · exact ⟨fun h ↦ absurd h hf, fun h ↦ by cases h⟩
  · intro rest' hh
    obtain ⟨tokens', rfl⟩ := List.head?_eq_some_iff.mp hh
    exact hp tokens'

/-! ### One token -/

private theorem runFrom_require_cons (expected : Expected) (position : Nat) (t : String)
    (tokens : List String) :
    (require expected).runFrom ⟨position, t :: tokens⟩ = (.ok t, ⟨position, t :: tokens⟩) := rfl

/-- Where no token is ahead, the end of the tokens is the fault. -/
theorem runFrom_token_nil (expected : Expected) (read : String → Except Fault α)
    (position : Nat) :
    (token expected read).runFrom ⟨position, []⟩ =
      (.error ⟨position, .ended expected⟩, ⟨position, []⟩) := rfl

/-- A token that is read is passed. -/
theorem runFrom_token_ok (expected : Expected) (read : String → Except Fault α)
    (position : Nat) (t : String) (tokens : List String) (a : α) (h : read t = .ok a) :
    (token expected read).runFrom ⟨position, t :: tokens⟩ = (.ok a, ⟨position + 1, tokens⟩) := by
  unfold token
  rw [runFrom_bind_of_ok (runFrom_require_cons expected position t tokens), h]
  rfl

/-- A token that is refused stays ahead. -/
theorem runFrom_token_error (expected : Expected) (read : String → Except Fault α)
    (position : Nat) (t : String) (tokens : List String) (fault : Fault)
    (h : read t = .error fault) :
    (token expected read).runFrom ⟨position, t :: tokens⟩ =
      (.error ⟨position, fault⟩, ⟨position, t :: tokens⟩) := by
  unfold token
  rw [runFrom_bind_of_ok (runFrom_require_cons expected position t tokens), h]
  rfl

/-- A token that is there is passed. -/
theorem runFrom_pass (position : Nat) (t : String) (tokens : List String) :
    pass.runFrom ⟨position, t :: tokens⟩ = (.ok (), ⟨position + 1, tokens⟩) := rfl

/-- The rows of one token that spells the value. -/
def Grammar.single (spells : String → α → Prop) : Grammar α := fun tokens a ↦
  ∃ t, tokens = [t] ∧ spells t a

/-- Passing a token that is there recognizes the rows of one such token. -/
theorem recognizesAt_pass (spells : String → Unit → Prop) (position : Nat) (t : String)
    (tokens : List String) (h : spells t ()) :
    pass.RecognizesAt (Grammar.single spells) position (t :: tokens) :=
  ⟨[t], tokens, .ok (), rfl, ⟨t, rfl, h⟩, fun _ _ ↦ rfl⟩

/-- Passing a token that is read recognizes the rows of one such token. -/
theorem recognizes_token (expected : Expected) (read : String → Except Fault α)
    (spells : String → α → Prop) (hi : ∃ t a, spells t a)
    (hs : ∀ t a, read t = .ok a → spells t a)
    (he : ∀ t fault, read t = .error fault → ¬fault.IsEnded) :
    (token expected read).Recognizes (Grammar.single spells) := by
  obtain ⟨t₀, a₀, h₀⟩ := hi
  have hg : ∃ tokens a, Grammar.single spells tokens a := ⟨[t₀], a₀, t₀, rfl, h₀⟩
  refine ⟨hg, ?_⟩
  intro position tokens
  cases tokens with
  | nil =>
    exact recognizesAt_of_ended _ _ position expected hg (runFrom_token_nil expected read position)
  | cons t tokens =>
    cases hr : read t with
    | ok a =>
      refine ⟨[t], tokens, .ok a, rfl, ⟨t, rfl, hs t a hr⟩, ?_⟩
      intro rest' _
      exact runFrom_token_ok expected read position t rest' a hr
    | error fault =>
      apply recognizesAt_of_fault _ _ position t tokens fault hg (he t fault hr)
      intro tokens'
      exact runFrom_token_error expected read position t tokens' fault hr

/-- Passing a token that is known recognizes the rows of one such token. -/
theorem recognizes_accept (expected : Expected) (read? : String → Option α)
    (hi : ∃ t a, read? t = some a) :
    (accept expected read?).Recognizes (Grammar.single fun t a ↦ read? t = some a) := by
  apply recognizes_token _ _ _ hi
  · intro t a h
    cases hr : read? t with
    | none => simp [hr] at h
    | some b => simpa [hr] using h
  · rintro t fault h ⟨expected, rfl⟩
    cases hr : read? t <;> simp [hr] at h

end Parser
end SelectFind
