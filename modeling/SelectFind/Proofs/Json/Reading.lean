import SelectFind.Proofs.Json.Tokens

/-!
# Reading a JSON text

The machine takes the tokens of a value and holds the value, whatever containers are open around it.
The other way round, a state shows every token that was taken to come to it: those of the open
containers in front, then those of what is finished. So a text is read as a value if and only if it
is a text of the value.
-/

namespace SelectFind.Json

/-! ### The row of tokens of a value -/

private theorem isChain_cons_mark (t : Token) (ts : List Token) (ht : t.isLiteral = false)
    (h : ts.IsChain Token.Apart) : (t :: ts).IsChain Token.Apart := by
  refine List.isChain_cons.mpr ⟨fun u _ hl ↦ ?_, h⟩
  rw [ht] at hl
  cases hl

private theorem isChain_append_mark (ts us : List Token)
    (hu : ∀ u ∈ us.head?, u.isLiteral = false) (ht : ts.IsChain Token.Apart)
    (h : us.IsChain Token.Apart) : (ts ++ us).IsChain Token.Apart :=
  List.isChain_append.mpr ⟨ht, h, fun _ _ u hu' _ ↦ hu u hu'⟩

-- Items and fields differ only in the tokens of a member and in the token that closes them.
private theorem isChain_members {α : Type} (member : α → List Token) (closing : Token)
    (hc : closing.isLiteral = false) (members : List α)
    (h : ∀ m ∈ members, (member m).IsChain Token.Apart) :
    (members.flatMap (fun m ↦ .comma :: member m) ++ [closing]).IsChain Token.Apart ∧
      ∀ u ∈ (members.flatMap (fun m ↦ .comma :: member m) ++ [closing]).head?,
        u.isLiteral = false := by
  induction members with
  | nil => exact ⟨List.isChain_singleton _, by simpa using hc⟩
  | cons m members ih =>
    obtain ⟨hm, hmembers⟩ := List.forall_mem_cons.mp h
    obtain ⟨hchain, hhead⟩ := ih hmembers
    rw [List.flatMap_cons, List.cons_append, List.cons_append, List.append_assoc]
    exact ⟨isChain_cons_mark _ _ rfl (isChain_append_mark _ _ hhead hm hchain),
      by simp [Token.isLiteral]⟩

private theorem isChain_container {α : Type} (member : α → List Token) (opening closing : Token)
    (ho : opening.isLiteral = false) (hc : closing.isLiteral = false) (first : α)
    (others : List α) (h : ∀ m ∈ first :: others, (member m).IsChain Token.Apart) :
    (opening :: (member first ++
      (others.flatMap (fun m ↦ .comma :: member m) ++ [closing]))).IsChain Token.Apart := by
  obtain ⟨hfirst, hothers⟩ := List.forall_mem_cons.mp h
  obtain ⟨hchain, hhead⟩ := isChain_members member closing hc others hothers
  exact isChain_cons_mark _ _ ho (isChain_append_mark _ _ hhead hfirst hchain)

private theorem itemTokens_eq (items : List Json) :
    itemTokens items = items.flatMap fun item ↦ .comma :: tokens item := by
  induction items with
  | nil => rfl
  | cons item items ih => rw [itemTokens, ih, List.flatMap_cons, List.cons_append]

private theorem fieldTokens_eq (fields : List (String × Json)) :
    fieldTokens fields =
      fields.flatMap fun f ↦ .comma :: .literal (string f.1) :: .colon :: tokens f.2 := by
  induction fields with
  | nil => rfl
  | cons field fields ih => rw [fieldTokens, ih, List.flatMap_cons]; rfl

private theorem isChain_tokens (j : Json) : (tokens j).IsChain Token.Apart := by
  induction j with
  | null | bool _ | number _ | string _ => exact List.isChain_singleton _
  | array items ih =>
    cases items with
    | nil => exact isChain_cons_mark _ _ rfl (List.isChain_singleton _)
    | cons item items =>
      rw [tokens, itemTokens_eq]
      exact isChain_container tokens .openArray .closeArray rfl rfl item items ih
  | object fields ih =>
    cases fields with
    | nil => exact isChain_cons_mark _ _ rfl (List.isChain_singleton _)
    | cons field fields =>
      have hmember (f : String × Json) (hf : f ∈ field :: fields) :
          (.literal (string f.1) :: .colon :: tokens f.2).IsChain Token.Apart :=
        List.isChain_cons_cons.mpr ⟨fun _ ↦ rfl, isChain_cons_mark _ _ rfl (ih f hf)⟩
      rw [tokens, fieldTokens_eq]
      exact isChain_container _ .openObject .closeObject rfl rfl field fields hmember

/-! ### The machine -/

/-- The machine reads the value from a state where a value may start on the stack. -/
private def Reads (j : Json) : Prop :=
  ∀ (s : State) (stack : List Frame), (∀ t, t ≠ .closeArray → s.step t = State.start stack t) →
    (tokens j).foldlM State.step s = some (.finished j stack)

private theorem Reads.value {j : Json} (h : Reads j) (stack : List Frame) :
    (tokens j).foldlM State.step (.value stack) = some (.finished j stack) :=
  h _ stack fun _ _ ↦ rfl

private theorem Reads.firstItem {j : Json} (h : Reads j) (stack : List Frame) :
    (tokens j).foldlM State.step (.firstItem stack) = some (.finished j (.array [] :: stack)) := by
  refine h _ _ fun t ht ↦ ?_
  cases t with
  | closeArray => exact absurd rfl ht
  | _ => rfl

private theorem foldlM_itemTokens (items : List Json) (h : ∀ item ∈ items, Reads item) (j : Json)
    (done : List Json) (stack : List Frame) :
    (itemTokens items ++ [Token.closeArray]).foldlM State.step
        (.finished j (.array done :: stack)) =
      some (.finished (.array (done.reverse ++ j :: items)) stack) := by
  induction items generalizing j done with
  | nil => simp [itemTokens, State.step]
  | cons item items ih =>
    obtain ⟨hitem, hitems⟩ := List.forall_mem_cons.mp h
    rw [itemTokens, List.cons_append, List.append_assoc, List.foldlM_cons]
    change (tokens item ++ _).foldlM State.step (.value (.array (j :: done) :: stack)) = _
    rw [List.foldlM_append, hitem.value]
    change (itemTokens items ++ _).foldlM State.step _ = _
    rw [ih hitems]
    simp

private theorem foldlM_fieldTokens (fields : List (String × Json))
    (h : ∀ field ∈ fields, Reads field.2) (k : String) (j : Json) (done : List (String × Json))
    (stack : List Frame) :
    (fieldTokens fields ++ [Token.closeObject]).foldlM State.step
        (.finished j (.object done k :: stack)) =
      some (.finished (.object (done.reverse ++ (k, j) :: fields)) stack) := by
  induction fields generalizing k j done with
  | nil => simp [fieldTokens, State.step]
  | cons field fields ih =>
    obtain ⟨name, value⟩ := field
    obtain ⟨hvalue, hfields⟩ := List.forall_mem_cons.mp h
    rw [fieldTokens, List.cons_append, List.cons_append, List.cons_append, List.append_assoc]
    change (tokens value ++ _).foldlM State.step
      (.value (.object ((k, j) :: done) name :: stack)) = _
    rw [List.foldlM_append, hvalue.value]
    change (fieldTokens fields ++ _).foldlM State.step _ = _
    rw [ih hfields]
    simp

private theorem reads (j : Json) : Reads j := by
  induction j with
  | null | bool _ | number _ | string _ =>
    intro s stack hs
    rw [tokens, List.foldlM_cons, hs _ (by simp)]
    rfl
  | array items ih =>
    intro s stack hs
    cases items with
    | nil =>
      rw [tokens, List.foldlM_cons, hs _ (by simp)]
      rfl
    | cons item items =>
      obtain ⟨hitem, hitems⟩ := List.forall_mem_cons.mp ih
      rw [tokens, List.foldlM_cons, hs _ (by simp)]
      change (tokens item ++ _).foldlM State.step (.firstItem stack) = _
      rw [List.foldlM_append, hitem.firstItem]
      exact foldlM_itemTokens items hitems item [] stack
  | object fields ih =>
    intro s stack hs
    cases fields with
    | nil =>
      rw [tokens, List.foldlM_cons, hs _ (by simp)]
      rfl
    | cons field fields =>
      obtain ⟨name, value⟩ := field
      obtain ⟨hvalue, hfields⟩ := List.forall_mem_cons.mp ih
      rw [tokens, List.foldlM_cons, hs _ (by simp)]
      change (tokens value ++ _).foldlM State.step (.value (.object [] name :: stack)) = _
      rw [List.foldlM_append, hvalue.value]
      exact foldlM_fieldTokens fields hfields name value [] stack

private theorem foldlM_tokens (j : Json) (stack : List Frame) :
    (tokens j).foldlM State.step (.value stack) = some (.finished j stack) :=
  (reads j).value stack

/-! ### What the machine has taken -/

/-- The tokens of the items that are done, the last first, each with the comma behind it. -/
def doneItems : List Json → List Token
  | [] => []
  | j :: done => doneItems done ++ (tokens j ++ [.comma])

/-- The tokens of the fields that are done, the last first, each with the comma behind it. -/
def doneFields : List (String × Json) → List Token
  | [] => []
  | (k, j) :: done => doneFields done ++ (.literal (string k) :: .colon :: (tokens j ++ [.comma]))

/-- The tokens taken in front of the value that the innermost container waits for. -/
def openTokens : List Frame → List Token
  | [] => []
  | .array done :: stack => openTokens stack ++ .openArray :: doneItems done
  | .object done k :: stack =>
    openTokens stack ++ .openObject :: (doneFields done ++ [.literal (string k), .colon])

/-- The tokens that the machine has taken to come to a state. -/
def State.taken : State → List Token
  | value stack => openTokens stack
  | firstItem stack => openTokens stack ++ [.openArray]
  | firstField stack => openTokens stack ++ [.openObject]
  | name done stack => openTokens stack ++ .openObject :: doneFields done
  | colon done k stack =>
    openTokens stack ++ .openObject :: (doneFields done ++ [.literal (string k)])
  | finished j stack => openTokens stack ++ tokens j

private theorem tokens_array_reverse (done : List Json) (j : Json) (items : List Json) :
    .openArray :: (doneItems done ++ (tokens j ++ (itemTokens items ++ [Token.closeArray]))) =
      tokens (.array (done.reverse ++ j :: items)) := by
  induction done generalizing j items with
  | nil => rw [doneItems, List.reverse_nil, List.nil_append, List.nil_append, tokens]
  | cons d done ih =>
    have := ih d (j :: items)
    simpa [doneItems, itemTokens] using this

private theorem tokens_object_reverse (done : List (String × Json)) (k : String) (j : Json)
    (fields : List (String × Json)) :
    .openObject :: (doneFields done ++ (.literal (string k) :: .colon ::
        (tokens j ++ (fieldTokens fields ++ [Token.closeObject])))) =
      tokens (.object (done.reverse ++ (k, j) :: fields)) := by
  induction done generalizing k j fields with
  | nil => rw [doneFields, List.reverse_nil, List.nil_append, List.nil_append, tokens]
  | cons d done ih =>
    have := ih d.1 d.2 ((k, j) :: fields)
    simpa [doneFields, fieldTokens] using this

/-- A token that holds a value is the only token of the value. -/
def Token.Single (t : Token) : Prop := ∀ j, t = .literal j → tokens j = [t]

private theorem Token.SpelledBy.single {t : Token} {text : List Char} (h : t.SpelledBy text) :
    t.Single := by
  rintro j rfl
  cases h <;> rfl

private theorem Spelled.single {ts : List Token} {cs : List Char} (h : Spelled ts cs) :
    ∀ t ∈ ts, t.Single := by
  induction h with
  | nil => exact List.forall_mem_nil _
  | space _ _ ih => exact ih
  | token ht _ ih => exact List.forall_mem_cons.mpr ⟨ht.single, ih⟩

private theorem State.taken_start {stack : List Frame} {t : Token} {s : State} (ht : t.Single)
    (h : start stack t = some s) : s.taken = openTokens stack ++ [t] := by
  unfold start at h
  split at h
  · cases h
    rfl
  · cases h
    rfl
  · next j =>
    cases h
    rw [taken, ht j rfl]
  · cases h

private theorem State.taken_step {s s' : State} {t : Token} (ht : t.Single)
    (h : s.step t = some s') : s'.taken = s.taken ++ [t] := by
  unfold step at h
  split at h
  case h_1 => exact taken_start ht h
  case h_3 =>
    have := taken_start ht h
    simpa [taken, openTokens, doneItems] using this
  -- The end of a container turns what it holds, the last first, into one value.
  case h_9 j done stack =>
    cases h
    have := tokens_array_reverse done j []
    simpa [taken, openTokens, itemTokens] using this.symm
  case h_11 j done k stack =>
    cases h
    have := tokens_object_reverse done k j []
    simpa [taken, openTokens, fieldTokens] using this.symm
  case h_12 => cases h
  all_goals
    cases h
    simp [taken, openTokens, doneItems, doneFields, tokens]

private theorem State.taken_foldlM {ts : List Token} {s s' : State} (ht : ∀ t ∈ ts, t.Single)
    (h : ts.foldlM step s = some s') : s'.taken = s.taken ++ ts := by
  induction ts generalizing s with
  | nil =>
    cases h
    rw [List.append_nil]
  | cons t ts ih =>
    obtain ⟨ht, hts⟩ := List.forall_mem_cons.mp ht
    rw [List.foldlM_cons] at h
    obtain ⟨r, hr, h⟩ := Option.bind_eq_some_iff.mp h
    rw [ih hts h, taken_step ht hr, List.append_assoc, List.singleton_append]

/-! ### Texts -/

/-- A text is read as a value if and only if it is a text of the value. -/
theorem ofString?_eq_some_iff (s : String) (j : Json) :
    ofString? s = some j ↔ IsText j s.toList := by
  constructor
  · intro h
    obtain ⟨ts, hts, h⟩ := Option.bind_eq_some_iff.mp h
    obtain ⟨state, hstate, h⟩ := Option.bind_eq_some_iff.mp h
    have hspelled := spelled_of_tokens? hts
    have htaken := State.taken_foldlM hspelled.single hstate
    unfold State.result? at h
    split at h
    · cases h
      have hj : tokens j = ts := htaken
      rwa [IsText, hj]
    · cases h
  · intro h
    rw [ofString?, tokens?_of_spelled h (isChain_tokens j)]
    change ((tokens j).foldlM State.step (.value [])).bind State.result? = some j
    rw [foldlM_tokens]
    rfl

end SelectFind.Json
