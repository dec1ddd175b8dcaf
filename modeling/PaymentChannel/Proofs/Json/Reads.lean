import PaymentChannel.Json.Reader

/-!
# What a reader reads

A reader takes characters off the front of a text. `Reads` says that it succeeds, with which result
and what is left, and each way in which readers are put together has a rule for it. Where a reader
first passes over spaces, the spaces and what comes after them are all that matters
(`reads_skipSpaces_bind`).
-/

namespace PaymentChannel.Json

variable {α β : Type} {text mid rest : List Char}

/-- From the front of a text, a reader reads a result, and leaves the rest. -/
def Reads (r : Reader α) (text : List Char) (a : α) (rest : List Char) : Prop :=
  r.run text = .ok (a, rest)

/-- There is only one thing to read. -/
theorem Reads.unique {r : Reader α} {a b : α} {rest' : List Char} (h : Reads r text a rest)
    (h' : Reads r text b rest') : a = b ∧ rest = rest' :=
  Prod.mk.inj (Except.ok.inj (h.symm.trans h'))

@[simp] theorem reads_pure {a b : α} : Reads (pure a) text b rest ↔ b = a ∧ rest = text := by
  change Except.ok (a, text) = .ok (b, rest) ↔ _
  rw [Except.ok.injEq, Prod.mk.injEq, eq_comm, @eq_comm _ text]

/-- To fail is to read nothing. -/
@[simp] theorem not_reads_throw {fault : Fault} {a : α} :
    ¬ Reads (throw fault) text a rest := nofun

/-- What follows goes on with what is left. -/
theorem reads_bind {r : Reader α} {f : α → Reader β} {b : β} :
    Reads (r >>= f) text b rest ↔ ∃ a mid, Reads r text a mid ∧ Reads (f a) mid b rest := by
  change (r.run text >>= fun p => (f p.1).run p.2) = .ok (b, rest) ↔ _
  constructor
  · intro h
    cases read : r.run text with
    | error fault =>
      rw [read] at h
      exact nomatch h
    | ok p =>
      rw [read] at h
      exact ⟨p.1, p.2, read, h⟩
  · rintro ⟨a, mid, read, h⟩
    rw [show r.run text = .ok (a, mid) from read]
    exact h

/-- A reader takes up the text where the one before it has left off. -/
theorem Reads.bind {r : Reader α} {f : α → Reader β} {a : α} {b : β} (first : Reads r text a mid)
    (second : Reads (f a) mid b rest) : Reads (r >>= f) text b rest :=
  reads_bind.2 ⟨a, mid, first, second⟩

/-- What is made of the result is read from the same text. -/
@[simp] theorem reads_map {r : Reader α} {f : α → β} {b : β} :
    Reads (f <$> r) text b rest ↔ ∃ a, Reads r text a rest ∧ b = f a := by
  rw [← bind_pure_comp, reads_bind]
  constructor
  · rintro ⟨a, mid, read, h⟩
    obtain ⟨rfl, rfl⟩ := reads_pure.1 h
    exact ⟨a, read, rfl⟩
  · rintro ⟨a, read, rfl⟩
    exact ⟨a, rest, read, rfl⟩

theorem Reads.map {r : Reader α} {a : α} (h : Reads r text a rest) (f : α → β) :
    Reads (f <$> r) text (f a) rest := reads_map.2 ⟨a, h, rfl⟩

@[simp] theorem reads_set {cs : List Char} {u : Unit} : Reads (set cs) text u rest ↔ rest = cs := by
  change Except.ok ((), cs) = .ok (u, rest) ↔ _
  rw [Except.ok.injEq, Prod.mk.injEq, eq_comm (a := cs)]
  exact and_iff_right rfl

/-- One character is passed over, if there is one. -/
@[simp] theorem reads_advance {u : Unit} : Reads advance text u rest ↔ rest = text.tail := by
  change Except.ok ((), text.tail) = .ok (u, rest) ↔ _
  rw [Except.ok.injEq, Prod.mk.injEq, eq_comm (a := text.tail)]
  exact and_iff_right rfl

/-- A reader that looks at the whole text first. -/
theorem reads_get_bind {f : List Char → Reader α} {a : α} :
    Reads (get >>= f) text a rest ↔ Reads (f text) text a rest := Iff.rfl

/-- A reader that looks at the next character first. -/
theorem reads_peek_bind {f : Option Char → Reader α} {a : α} :
    Reads (peek >>= f) text a rest ↔ Reads (f text.head?) text a rest := Iff.rfl

/-- Behind the first character, the rest is read. -/
theorem reads_advance_bind {f : Unit → Reader α} {c : Char} {a : α} :
    Reads (advance >>= f) (c :: text) a rest ↔ Reads (f ()) text a rest := Iff.rfl

/-- A computation reads no text. -/
@[simp] theorem reads_lift {x : Except Fault α} {a : α} :
    Reads (liftM x) text a rest ↔ x = .ok a ∧ rest = text := by
  cases x with
  | error fault => exact ⟨nofun, fun h => nomatch h.1⟩
  | ok b =>
    change Except.ok (b, text) = .ok (a, rest) ↔ _
    rw [Except.ok.injEq, Prod.mk.injEq, Except.ok.injEq, @eq_comm _ text]

/-! ## Runs of characters -/

/-- The first character, if there is one, is of another kind. -/
def StopsAt (p : Char → Bool) (cs : List Char) : Prop := ∀ c ∈ cs.head?, p c = false

theorem stopsAt_nil {p : Char → Bool} : StopsAt p [] := nofun

@[simp] theorem stopsAt_cons {p : Char → Bool} {c : Char} {cs : List Char} :
    StopsAt p (c :: cs) ↔ p c = false := by
  simp [StopsAt]

/-- What is dropped goes on up to where it stops. -/
theorem stopsAt_dropWhile (p : Char → Bool) (text : List Char) : StopsAt p (text.dropWhile p) := by
  intro c hc
  have := List.head?_dropWhile_not p text
  rw [Option.mem_def.1 hc] at this
  simpa using this

section Run

variable {p : Char → Bool} {cs : List Char} (all : ∀ c ∈ cs, p c = true) (stop : StopsAt p rest)

include all stop

/-- As much is taken as there is, if the rest stops there. -/
theorem takeWhile_of_stopsAt : (cs ++ rest).takeWhile p = cs := by
  rw [List.takeWhile_append_of_pos all]
  cases rest with
  | nil => simp
  | cons c rest => simp [stopsAt_cons.1 stop]

/-- As much is dropped as there is, if the rest stops there. -/
theorem dropWhile_of_stopsAt : (cs ++ rest).dropWhile p = rest := by
  rw [List.dropWhile_append_of_pos all]
  cases rest with
  | nil => rfl
  | cons c rest => simp [stopsAt_cons.1 stop]

end Run

/-! ## Spaces -/

/-- There are only spaces. -/
def Spaces (cs : List Char) : Prop := ∀ c ∈ cs, isSpace c = true

theorem spaces_nil : Spaces [] := nofun

/-- Spaces and more spaces are spaces. -/
theorem Spaces.append {cs ds : List Char} (h : Spaces cs) (h' : Spaces ds) : Spaces (cs ++ ds) :=
  List.forall_mem_append.2 ⟨h, h'⟩

/-- Spaces go on up to the first other character. -/
theorem Spaces.unique {cs ds : List Char} {rest' : List Char} (h : Spaces cs) (h' : Spaces ds)
    (stop : StopsAt isSpace rest) (stop' : StopsAt isSpace rest')
    (same : cs ++ rest = ds ++ rest') : rest = rest' := by
  rw [← dropWhile_of_stopsAt h stop, same, dropWhile_of_stopsAt h' stop']

/-- A reader that passes over spaces first. -/
theorem reads_skipSpaces_bind {f : Option Char → Reader α} {a : α} :
    Reads (skipSpaces >>= f) text a rest ↔
      ∃ sp mid, text = sp ++ mid ∧ Spaces sp ∧ StopsAt isSpace mid ∧
        Reads (f mid.head?) mid a rest := by
  change Reads (f (text.dropWhile isSpace).head?) (text.dropWhile isSpace) a rest ↔ _
  constructor
  · intro h
    exact ⟨text.takeWhile isSpace, _, List.takeWhile_append_dropWhile.symm,
      List.all_eq_true.1 List.all_takeWhile, stopsAt_dropWhile isSpace text, h⟩
  · rintro ⟨sp, mid, rfl, spaces, unspaced, h⟩
    rwa [dropWhile_of_stopsAt spaces unspaced]

/-- A reader that takes a single character behind the spaces, and goes on. -/
theorem reads_char_bind {f : Option Char → Reader α} {a : α} (c : Char) (next : Reader α)
    (unspaced : isSpace c = false)
    (chosen : ∀ cs, Reads (f (some c)) (c :: cs) a rest ↔ Reads next cs a rest)
    (refused : ∀ o cs, o ≠ some c → ¬ Reads (f o) cs a rest) :
    Reads (skipSpaces >>= f) text a rest ↔
      ∃ sp mid, Spaces sp ∧ text = sp ++ c :: mid ∧ Reads next mid a rest := by
  rw [reads_skipSpaces_bind]
  constructor
  · rintro ⟨sp, mid, rfl, spaces, -, h⟩
    by_cases front : mid.head? = some c
    · obtain ⟨cs, rfl⟩ := List.head?_eq_some_iff.1 front
      exact ⟨sp, cs, spaces, rfl, (chosen cs).1 h⟩
    · exact absurd h (refused _ mid front)
  · rintro ⟨sp, mid, spaces, rfl, h⟩
    exact ⟨sp, c :: mid, rfl, spaces, stopsAt_cons.2 unspaced, (chosen mid).2 h⟩

/-! ## Fixed characters -/

/-- What is expected has to be there, character by character. -/
theorem reads_expect {cs : List Char} {u : Unit} :
    Reads (expect cs) text u rest ↔ text = cs ++ rest := by
  induction cs generalizing text with
  | nil => simp [expect, eq_comm]
  | cons c cs ih =>
    rw [expect, reads_peek_bind]
    cases text with
    | nil => simp
    | cons d text =>
      change Reads (advance >>= fun _ => if d = c then expect cs else throw .malformed) _ _ _ ↔ _
      rw [reads_advance_bind]
      by_cases same : d = c
      · rw [if_pos same, ih, same, List.cons_append, List.cons.injEq]
        exact (and_iff_right rfl).symm
      · rw [if_neg same]
        simp [same]

/-- A colon is read behind spaces. -/
theorem reads_readColon {u : Unit} :
    Reads readColon text u rest ↔ ∃ sp, Spaces sp ∧ text = sp ++ ':' :: rest := by
  rw [readColon, reads_char_bind ':' (pure ()) rfl]
  · simp
  · simp
  · intro o cs ne
    split <;> simp_all

/-- The end of an array is read behind spaces. -/
theorem reads_readClosing {u : Unit} :
    Reads readClosing text u rest ↔ ∃ sp, Spaces sp ∧ text = sp ++ ']' :: rest := by
  rw [readClosing, reads_char_bind ']' (pure ()) rfl]
  · simp
  · simp
  · intro o cs ne
    split <;> simp_all

/-- A value of another kind than the expected one is not read. -/
theorem not_reads_mismatch {expected : String} {a : α} :
    ¬ Reads (mismatch expected) text a rest := by
  rw [mismatch, reads_peek_bind]
  split
  all_goals simp only [reads_bind, not_reads_throw, and_false, exists_false, not_false_eq_true]
  split
  all_goals simp only [reads_bind, not_reads_throw, and_false, exists_false, not_false_eq_true]

/-- A document may end with spaces, and with nothing else. -/
theorem reads_readEnd {u : Unit} : Reads readEnd text u rest ↔ Spaces text ∧ rest = [] := by
  rw [readEnd, reads_skipSpaces_bind]
  constructor
  · rintro ⟨sp, mid, rfl, spaces, -, h⟩
    cases mid with
    | nil => exact ⟨by simpa using spaces, (reads_pure.1 h).2⟩
    | cons c mid => exact absurd h not_reads_throw
  · rintro ⟨spaces, rfl⟩
    exact ⟨text, [], (List.append_nil text).symm, spaces, stopsAt_nil, rfl⟩

/-- A whole text is read if only spaces are left. -/
theorem run_eq_ok_iff {r : Reader α} {text : String} {a : α} :
    run r text = .ok a ↔ ∃ after, Reads r text.toList a after ∧ Spaces after := by
  have whole : run r text = .ok a ↔ ∃ rest,
      Reads (r >>= fun a => readEnd >>= fun _ => pure a) text.toList a rest := by
    change Prod.fst <$> StateT.run (r >>= fun a => readEnd >>= fun _ => pure a) text.toList = _ ↔ _
    unfold Reads
    cases StateT.run (r >>= fun a => readEnd >>= fun _ => pure a) text.toList with
    | error fault => exact ⟨nofun, nofun⟩
    | ok p =>
      constructor
      · rintro ⟨⟩
        exact ⟨p.2, rfl⟩
      · rintro ⟨rest, ⟨⟩⟩
        rfl
  simp only [whole, reads_bind, reads_readEnd, reads_pure]
  constructor
  · rintro ⟨rest, b, after, read, ⟨⟩, mid, ⟨spaces, rfl⟩, rfl, -⟩
    exact ⟨after, read, spaces⟩
  · rintro ⟨after, read, spaces⟩
    exact ⟨[], a, after, read, (), [], ⟨spaces, rfl⟩, rfl, rfl⟩

end PaymentChannel.Json
