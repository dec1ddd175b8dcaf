import PaymentChannel.Proofs.Json.Reads

/-!
# Texts in documents

Between its quotes, a text is written in characters and escapes. Which pieces they spell is given by
`Spelling`, and the text is what the pieces make up (`Spells`), if there are no halves of characters
left over. A text that is passed over may have such halves.
-/

namespace PaymentChannel.Json

variable {text rest : List Char}

/-! ## Spellings -/

/-- What is written between the quotes of a text, and the pieces that it spells. -/
inductive Spelling : List Char → List Piece → Prop where
  | nil : Spelling [] []
  | plain {c : Char} {cs : List Char} {ps : List Piece} (no_quote : c ≠ '"')
      (no_backslash : c ≠ '\\') (visible : 0x20 ≤ c.toNat) (behind : Spelling cs ps) :
      Spelling (c :: cs) (.char c :: ps)
  | escaped {c x : Char} {cs : List Char} {ps : List Piece} (h : unescape c = some x)
      (behind : Spelling cs ps) : Spelling ('\\' :: c :: cs) (.char x :: ps)
  | code {a b c d : Char} {n : Nat} {cs : List Char} {ps : List Piece}
      (h : hexCode a b c d = some n) (behind : Spelling cs ps) :
      Spelling ('\\' :: 'u' :: a :: b :: c :: d :: cs) (.code n :: ps)

/-- What spells pieces is scanned up to the quote behind it. -/
theorem Spelling.scanText_eq {body : List Char} {ps : List Piece} (h : Spelling body ps)
    (rest : List Char) : scanText (body ++ '"' :: rest) = ⟨ps, .ok rest⟩ := by
  induction h with
  | nil => rfl
  | plain no_quote no_backslash visible _ ih =>
    rw [List.cons_append, scanText, if_neg (Nat.not_lt.2 visible), ih]
    · rfl
    all_goals simp_all
  | @escaped c x cs ps h _ ih =>
    have ne : c ≠ 'u' := by
      rintro rfl
      exact nomatch h
    rw [List.cons_append, List.cons_append, scanText, h]
    · simp only [ih]
      rfl
    · exact fun _ _ _ _ _ eq => absurd eq ne
    · exact ne
  | code h _ ih =>
    simp only [List.cons_append, scanText, h, ih]
    rfl

theorem Pieces.cons_eq {p : Piece} {qs : Pieces} {ps : List Piece}
    (h : qs.cons p = ⟨ps, .ok rest⟩) : ∃ behind, ps = p :: behind ∧ qs = ⟨behind, .ok rest⟩ := by
  obtain ⟨pieces, rest'⟩ := qs
  obtain ⟨rfl, rfl⟩ := Pieces.mk.inj h
  exact ⟨pieces, rfl, rfl⟩

theorem Pieces.stop_ne {fault : Fault} {ps : List Piece} : stop fault ≠ ⟨ps, .ok rest⟩ :=
  fun h => nomatch (Pieces.mk.inj h).2

/-- What is scanned up to a quote spells the pieces. -/
theorem exists_spelling {ps : List Piece} (h : scanText text = ⟨ps, .ok rest⟩) :
    ∃ body, text = body ++ '"' :: rest ∧ Spelling body ps := by
  fun_induction scanText text generalizing ps with
  | case2 rest' =>
    -- The closing quote.
    cases h
    exact ⟨[], rfl, .nil⟩
  | case3 a b c d behind n code ih =>
    obtain ⟨qs, rfl, scanned⟩ := Pieces.cons_eq h
    obtain ⟨body, rfl, spelling⟩ := ih scanned
    exact ⟨_, rfl, .code code spelling⟩
  | case6 c behind _ _ x escaped ih =>
    obtain ⟨qs, rfl, scanned⟩ := Pieces.cons_eq h
    obtain ⟨body, rfl, spelling⟩ := ih scanned
    exact ⟨_, rfl, .escaped escaped spelling⟩
  | case10 c behind no_quote _ _ more last visible ih =>
    obtain ⟨qs, rfl, scanned⟩ := Pieces.cons_eq h
    obtain ⟨body, rfl, spelling⟩ := ih scanned
    refine ⟨_, rfl, .plain no_quote (fun backslash => ?_) (Nat.not_lt.1 visible) spelling⟩
    cases body with
    | nil => exact more _ _ backslash rfl
    | cons d body => exact more _ _ backslash rfl
  | case1 | case4 | case5 | case7 | case8 | case9 => exact absurd h Pieces.stop_ne

/-- A scan ends at the first quote that belongs to no piece. -/
theorem scanText_eq_ok_iff {ps : List Piece} : scanText text = ⟨ps, .ok rest⟩ ↔
    ∃ body, text = body ++ '"' :: rest ∧ Spelling body ps := by
  refine ⟨exists_spelling, ?_⟩
  rintro ⟨body, rfl, spelling⟩
  exact spelling.scanText_eq rest

/-- The first quote that is not escaped ends the text, and what comes before spells one thing. -/
theorem Spelling.unique {body body' rest' : List Char} {ps ps' : List Piece}
    (h : Spelling body ps) (h' : Spelling body' ps')
    (same : body ++ '"' :: rest = body' ++ '"' :: rest') :
    body = body' ∧ ps = ps' ∧ rest = rest' := by
  have scanned := h.scanText_eq rest
  rw [same, h'.scanText_eq rest'] at scanned
  obtain ⟨rfl, ends⟩ := Pieces.mk.inj scanned
  obtain rfl := Except.ok.inj ends
  exact ⟨List.append_cancel_right same, rfl, rfl⟩

/-! ## Texts -/

/-- What is written between the quotes of a text spells characters. -/
def Spells (body : List Char) (s : String) : Prop :=
  ∃ ps, Spelling body ps ∧ joinPieces none ps = .ok s.toList

/-- A text spells one string at most. -/
theorem Spells.unique {body : List Char} {s t : String} (h : Spells body s) (h' : Spells body t) :
    s = t := by
  obtain ⟨ps, spelling, joined⟩ := h
  obtain ⟨ps', spelling', joined'⟩ := h'
  obtain ⟨-, rfl, -⟩ := spelling.unique spelling' (rfl : body ++ '"' :: [] = _)
  exact String.toList_inj.1 (Except.ok.inj (joined.symm.trans joined'))

/-- What spells a string spells its pieces. -/
theorem Spells.exists_spelling {body : List Char} {s : String} (h : Spells body s) :
    ∃ ps, Spelling body ps := h.imp fun _ => And.left

/-- Visible characters that need no escape spell themselves. -/
theorem spells_plain {cs : List Char} (plain : ∀ c ∈ cs, c ≠ '"' ∧ c ≠ '\\' ∧ 0x20 ≤ c.toNat) :
    Spells cs (String.ofList cs) := by
  refine ⟨cs.map .char, ?_, ?_⟩
  · induction cs with
    | nil => exact .nil
    | cons c cs ih =>
      obtain ⟨⟨no_quote, no_backslash, visible⟩, others⟩ := List.forall_mem_cons.1 plain
      exact .plain no_quote no_backslash visible (ih others)
  · clear plain
    rw [String.toList_ofList]
    induction cs with
    | nil => rfl
    | cons c cs ih =>
      rw [List.map_cons, joinPieces, ih]
      rfl

/-- A text is written like this, quotes included. -/
def WritesText (s : String) (v : List Char) : Prop :=
  ∃ body, v = '"' :: (body ++ ['"']) ∧ Spells body s

/-- The text between quotes. -/
def quoted (s : String) : List Char := '"' :: (s.toList ++ ['"'])

/-- A plain string is written between quotes as it is. -/
theorem writesText_quoted {s : String}
    (plain : ∀ c ∈ s.toList, c ≠ '"' ∧ c ≠ '\\' ∧ 0x20 ≤ c.toNat) : WritesText s (quoted s) :=
  ⟨s.toList, rfl, by simpa using spells_plain plain⟩

/-- A string is read up to the quote behind it. -/
theorem reads_readText {s : String} :
    Reads readText text s rest ↔ ∃ body, text = body ++ '"' :: rest ∧ Spells body s := by
  rw [readText, reads_get_bind]
  constructor
  · intro h
    rcases scanned_eq : scanText text with ⟨ps, ends⟩
    rw [scanned_eq] at h
    cases ends with
    | error fault => simp [reads_bind] at h
    | ok behind =>
      obtain ⟨body, rfl, spelling⟩ := scanText_eq_ok_iff.1 scanned_eq
      simp only [reads_bind, reads_lift, reads_set, reads_pure] at h
      obtain ⟨chars, _, ⟨joined, rfl⟩, _, _, rfl, rfl, rfl⟩ := h
      exact ⟨body, rfl, ps, spelling, joined.trans (by rw [String.toList_ofList])⟩
  · rintro ⟨body, rfl, ps, spelling, joined⟩
    rw [spelling.scanText_eq]
    simp only [reads_bind, reads_lift, reads_set, reads_pure]
    exact ⟨s.toList, _, ⟨joined, rfl⟩, (), rest, rfl, String.ofList_toList.symm, rfl⟩

/-- A string is skipped if its pieces are well-formed, whatever they come to. -/
theorem reads_skipText {u : Unit} :
    Reads skipText text u rest ↔ ∃ body ps, text = body ++ '"' :: rest ∧ Spelling body ps := by
  rw [skipText, reads_get_bind]
  simp only [reads_bind, reads_lift, reads_set]
  constructor
  · rintro ⟨behind, _, ⟨ends, -⟩, rfl⟩
    have scanned : scanText text = ⟨(scanText text).pieces, .ok rest⟩ := by rw [← ends]
    obtain ⟨body, text_eq, spelling⟩ := exists_spelling scanned
    exact ⟨body, _, text_eq, spelling⟩
  · rintro ⟨body, ps, rfl, spelling⟩
    exact ⟨rest, _, ⟨by rw [spelling.scanText_eq], rfl⟩, rfl⟩

/-- A string is read just from a text that writes it, behind spaces. -/
theorem reads_readString {expected s : String} :
    Reads (readString expected) text s rest ↔
      ∃ sp v, Spaces sp ∧ text = sp ++ (v ++ rest) ∧ WritesText s v := by
  rw [readString, reads_char_bind '"' readText rfl (fun _ => Iff.rfl)]
  · simp only [reads_readText]
    constructor
    · rintro ⟨sp, _, spaces, rfl, body, rfl, spells⟩
      exact ⟨sp, _, spaces, by simp, body, rfl, spells⟩
    · rintro ⟨sp, _, spaces, rfl, body, rfl, spells⟩
      exact ⟨sp, _, spaces, by simp, body, rfl, spells⟩
  · intro o cs ne
    split
    · exact not_reads_throw
    · exact absurd rfl ne
    · exact not_reads_mismatch

/-! ## Names -/

/-- Reads the name of a member, without what separates it from the one before. -/
def readQuotedName : Reader (Option String) := do
  match ← skipSpaces with
  | some '"' =>
    advance
    some <$> readText
  | some _ => throw .malformed
  | none => throw .unfinished

/-- A name is read as a string is. -/
theorem reads_readQuotedName {name : Option String} : Reads readQuotedName text name rest ↔
    ∃ lead body s, Spaces lead ∧ text = lead ++ '"' :: (body ++ '"' :: rest) ∧ Spells body s ∧
      name = some s := by
  rw [readQuotedName, reads_char_bind '"' (some <$> readText) rfl (fun _ => Iff.rfl)]
  · simp only [reads_map, reads_readText]
    constructor
    · rintro ⟨lead, _, spaces, rfl, s, ⟨body, rfl, spells⟩, rfl⟩
      exact ⟨lead, body, s, spaces, rfl, spells, rfl⟩
    · rintro ⟨lead, body, s, spaces, rfl, spells, rfl⟩
      exact ⟨lead, _, spaces, rfl, s, ⟨body, rfl, spells⟩, rfl⟩
  · intro o cs ne
    split <;> simp_all

/-- The first name of an object has no comma in front. -/
theorem readName_true : readName true =
    skipSpaces >>= fun c =>
      if c = some '}' then advance >>= fun _ => pure none else readQuotedName := rfl

/-- Any further name has a comma in front. -/
theorem readName_false : readName false =
    skipSpaces >>= fun c =>
      if c = some '}' then advance >>= fun _ => pure none
      else match c with
        | some ',' => advance >>= fun _ => readQuotedName
        | some _ => throw .malformed
        | none => throw .unfinished := rfl

/-- There is no name before the closing brace. -/
theorem reads_readName_none {first : Bool} :
    Reads (readName first) text none rest ↔ ∃ sp, Spaces sp ∧ text = sp ++ '}' :: rest := by
  have refused {text : List Char} : ¬ Reads readQuotedName text none rest := fun h => by
    obtain ⟨-, -, s, -, -, -, eq⟩ := reads_readQuotedName.1 h
    exact nomatch eq
  cases first with
  | true =>
    rw [readName_true, reads_char_bind '}' (pure none) rfl (fun _ => Iff.rfl)]
    · simp
    · intro o cs ne
      rw [if_neg ne]
      exact refused
  | false =>
    rw [readName_false, reads_char_bind '}' (pure none) rfl (fun _ => Iff.rfl)]
    · simp
    · intro o cs ne
      rw [if_neg ne]
      split <;> simp [reads_bind, refused]

/-- The name of the first member follows the opening brace. -/
theorem reads_readName_first {s : String} : Reads (readName true) text (some s) rest ↔
    ∃ lead body, Spaces lead ∧ text = lead ++ '"' :: (body ++ '"' :: rest) ∧ Spells body s := by
  rw [readName_true, reads_skipSpaces_bind]
  constructor
  · rintro ⟨sp, mid, rfl, spaces, -, h⟩
    by_cases close : mid.head? = some '}'
    · rw [if_pos close] at h
      simp at h
    · rw [if_neg close, reads_readQuotedName] at h
      obtain ⟨lead, body, t, spaces', rfl, spells, ⟨⟩⟩ := h
      exact ⟨sp ++ lead, body, spaces.append spaces', by simp, spells⟩
  · rintro ⟨lead, body, spaces, rfl, spells⟩
    refine ⟨lead, _, rfl, spaces, stopsAt_cons.2 rfl, ?_⟩
    exact reads_readQuotedName.2 ⟨[], body, s, spaces_nil, rfl, spells, rfl⟩

/-- The name of any other member follows a comma. -/
theorem reads_readName_next {s : String} : Reads (readName false) text (some s) rest ↔
    ∃ sp lead body, Spaces sp ∧ Spaces lead ∧
      text = sp ++ ',' :: (lead ++ '"' :: (body ++ '"' :: rest)) ∧ Spells body s := by
  rw [readName_false, reads_char_bind ',' readQuotedName rfl (fun _ => Iff.rfl)]
  · simp only [reads_readQuotedName]
    constructor
    · rintro ⟨sp, _, spaces, rfl, lead, body, t, spaces', rfl, spells, ⟨⟩⟩
      exact ⟨sp, lead, body, spaces, spaces', rfl, spells⟩
    · rintro ⟨sp, lead, body, spaces, spaces', rfl, spells⟩
      exact ⟨sp, _, spaces, rfl, lead, body, s, spaces', rfl, spells, rfl⟩
  · intro o cs ne
    by_cases close : o = some '}'
    · rw [if_pos close]
      simp
    · rw [if_neg close]
      split
      · exact absurd rfl ne
      all_goals simp

/-- What separates a part of an array or an object from the one before. -/
def separator : (first : Bool) → List Char
  | true => []
  | false => [',']

/-- A name is read behind the comma that separates it from the entry before. -/
theorem reads_readName_some {first : Bool} {s : String} :
    Reads (readName first) text (some s) rest ↔ ∃ sp lead body, Spaces sp ∧ Spaces lead ∧
      text = sp ++ (separator first ++ (lead ++ '"' :: (body ++ '"' :: rest))) ∧
        Spells body s := by
  cases first with
  | true =>
    rw [reads_readName_first]
    constructor
    · rintro ⟨lead, body, spaces, rfl, spells⟩
      exact ⟨[], lead, body, spaces_nil, spaces, rfl, spells⟩
    · rintro ⟨sp, lead, body, spaces, spaces', rfl, spells⟩
      exact ⟨sp ++ lead, body, spaces.append spaces', by simp [separator], spells⟩
  | false => exact reads_readName_next

end PaymentChannel.Json
