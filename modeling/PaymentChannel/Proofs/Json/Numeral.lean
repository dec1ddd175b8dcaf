import PaymentChannel.Proofs.Json.Reads

/-!
# Numbers in documents, as they are written

A number is written with a sign if it is negative, digits without zeros in front, perhaps a point
and digits, and perhaps an exponent (`Numeral.WrittenAs`). Nothing marks its end, so a reader takes
all that may belong to it, and what follows has to be something else (`Ends`).
-/

namespace PaymentChannel.Json

variable {text rest : List Char} {cut : Fault}

/-- At least one digit, and nothing else. -/
def IsDigits (ds : List Char) : Prop := ds ≠ [] ∧ ∀ c ∈ ds, c.isDigit = true

/-- No number goes on here. -/
def Ends (cs : List Char) : Prop :=
  ∀ c ∈ cs.head?, c.isDigit = false ∧ c ≠ '.' ∧ c ≠ 'e' ∧ c ≠ 'E'

/-- Behind the end of a number there is no digit. -/
theorem Ends.stopsAt {cs : List Char} (h : Ends cs) : StopsAt Char.isDigit cs :=
  fun c hc => (h c hc).1

/-- A number may be the last thing in a text. -/
theorem ends_nil : Ends [] := nofun

@[simp] theorem ends_cons {c : Char} {cs : List Char} :
    Ends (c :: cs) ↔ c.isDigit = false ∧ c ≠ '.' ∧ c ≠ 'e' ∧ c ≠ 'E' := by
  simp [Ends]

/-- A number does not go on with spaces. -/
theorem Ends.of_spaces {sp : List Char} (spaces : Spaces sp) (h : Ends rest) :
    Ends (sp ++ rest) := by
  cases sp with
  | nil => exact h
  | cons c sp =>
    have space : isSpace c = true := spaces c List.mem_cons_self
    simp only [isSpace, Bool.or_eq_true, decide_eq_true_eq] at space
    rw [List.cons_append, ends_cons]
    obtain ((rfl | rfl) | rfl) | rfl := space <;> decide

/-! ## Numerals -/

/-- The digits before a point. -/
def IsWhole (ds : List Char) : Prop := IsDigits ds ∧ (ds.head? = some '0' → ds.length = 1)

/-- What is written for the digits after a point. -/
inductive FractionText : Option (List Char) → List Char → Prop where
  | absent : FractionText none []
  | present {ds : List Char} (digits : IsDigits ds) : FractionText (some ds) ('.' :: ds)

/-- What is written for the sign of an exponent. -/
inductive SignText : Bool → List Char → Prop where
  | absent : SignText false []
  | plus : SignText false ['+']
  | minus : SignText true ['-']

/-- What is written for an exponent. -/
inductive ExponentText : Option (Bool × List Char) → List Char → Prop where
  | absent : ExponentText none []
  | present {e : Char} {down : Bool} {sign ds : List Char} (letter : e = 'e' ∨ e = 'E')
      (signed : SignText down sign) (digits : IsDigits ds) :
      ExponentText (some (down, ds)) (e :: (sign ++ ds))

/-- A number is written like this. -/
inductive Numeral.WrittenAs : Numeral → List Char → Prop where
  | mk {negative : Bool} {sign whole f e : List Char} {fraction : Option (List Char)}
      {exponent : Option (Bool × List Char)} (sign_eq : sign = if negative then ['-'] else [])
      (isWhole : IsWhole whole) (fractional : FractionText fraction f)
      (exponential : ExponentText exponent e) :
      WrittenAs ⟨negative, whole, fraction, exponent⟩ (sign ++ (whole ++ (f ++ e)))

/-! ## Reading numerals -/

/-- As many digits are read as there are. -/
theorem reads_readDigits {ds : List Char} : Reads readDigits text ds rest ↔
    text = ds ++ rest ∧ (∀ c ∈ ds, c.isDigit = true) ∧ StopsAt Char.isDigit rest := by
  rw [readDigits, reads_get_bind]
  simp only [reads_bind, reads_set, reads_pure]
  constructor
  · rintro ⟨-, _, rfl, rfl, rfl⟩
    exact ⟨List.takeWhile_append_dropWhile.symm, List.all_eq_true.1 List.all_takeWhile,
      stopsAt_dropWhile _ text⟩
  · rintro ⟨rfl, digits, stop⟩
    exact ⟨(), rest, (dropWhile_of_stopsAt digits stop).symm,
      (takeWhile_of_stopsAt digits stop).symm, rfl⟩

/-- As many digits are read as there are, and one at least. -/
theorem reads_readSomeDigits {ds : List Char} : Reads (readSomeDigits cut) text ds rest ↔
    text = ds ++ rest ∧ IsDigits ds ∧ StopsAt Char.isDigit rest := by
  rw [readSomeDigits, reads_bind]
  simp only [reads_readDigits]
  constructor
  · rintro ⟨ds', mid, ⟨rfl, digits, stop⟩, h⟩
    by_cases empty : ds'.isEmpty
    · rw [if_pos empty] at h
      simp [reads_bind] at h
    · rw [if_neg empty] at h
      obtain ⟨rfl, rfl⟩ := reads_pure.1 h
      exact ⟨rfl, ⟨by simpa using empty, digits⟩, stop⟩
  · rintro ⟨rfl, ⟨nonempty, digits⟩, stop⟩
    refine ⟨ds, rest, ⟨rfl, digits, stop⟩, ?_⟩
    rw [if_neg (by simpa using nonempty)]
    exact reads_pure.2 ⟨rfl, rfl⟩

/-- A whole part is zero, or does not start with zero. -/
theorem reads_readWhole {ds : List Char} : Reads (readWhole cut) text ds rest ↔
    text = ds ++ rest ∧ IsWhole ds ∧ StopsAt Char.isDigit rest := by
  rw [readWhole, reads_bind]
  simp only [reads_readSomeDigits, Bool.and_eq_true, decide_eq_true_eq]
  constructor
  · rintro ⟨ds', mid, ⟨rfl, digits, stop⟩, h⟩
    by_cases padded : ds'.head? = some '0' ∧ ds'.length ≠ 1
    · rw [if_pos padded] at h
      simp at h
    · rw [if_neg padded] at h
      obtain ⟨rfl, rfl⟩ := reads_pure.1 h
      exact ⟨rfl, ⟨digits, fun zero => Decidable.not_not.1 fun length => padded ⟨zero, length⟩⟩,
        stop⟩
  · rintro ⟨rfl, ⟨digits, unpadded⟩, stop⟩
    refine ⟨ds, rest, ⟨rfl, digits, stop⟩, ?_⟩
    rw [if_neg fun padded => padded.2 (unpadded padded.1)]
    exact reads_pure.2 ⟨rfl, rfl⟩

/-- Reads the digits after a point, if there is one. -/
def readFraction (cut : Fault) : Reader (Option (List Char)) := do
  if (← peek) = some '.' then
    advance
    some <$> readSomeDigits cut
  else pure none

/-- A fraction that is read has been written behind a point. -/
theorem exists_fractionText {fraction : Option (List Char)}
    (h : Reads (readFraction cut) text fraction rest) :
    ∃ f, text = f ++ rest ∧ FractionText fraction f := by
  rw [readFraction, reads_peek_bind] at h
  by_cases point : text.head? = some '.'
  · obtain ⟨tail, rfl⟩ := List.head?_eq_some_iff.1 point
    rw [if_pos point, reads_advance_bind, reads_map] at h
    obtain ⟨ds, read, rfl⟩ := h
    obtain ⟨rfl, digits, -⟩ := reads_readSomeDigits.1 read
    exact ⟨_, rfl, .present digits⟩
  · rw [if_neg point] at h
    obtain ⟨rfl, rfl⟩ := reads_pure.1 h
    exact ⟨[], rfl, .absent⟩

/-- A fraction is read if it does not go on, neither with digits nor with a point. -/
theorem FractionText.reads {fraction : Option (List Char)} {f : List Char}
    (h : FractionText fraction f) (stop : StopsAt Char.isDigit rest)
    (no_point : rest.head? ≠ some '.') :
    Reads (readFraction cut) (f ++ rest) fraction rest := by
  rw [readFraction, reads_peek_bind]
  cases h with
  | absent =>
    rw [List.nil_append, if_neg no_point]
    exact reads_pure.2 ⟨rfl, rfl⟩
  | present digits =>
    exact (reads_readSomeDigits.2 ⟨rfl, digits, stop⟩).map some

/-- Reads what follows the letter of an exponent. -/
def readSigned (cut : Fault) : Reader (Option (Bool × List Char)) := do
  let sign ← peek
  if sign = some '+' || sign = some '-' then advance
  return some (sign = some '-', ← readSomeDigits cut)

/-- An exponent starts with either case of the letter. -/
theorem readExponent_eq : readExponent cut =
    peek >>= fun c => match c with
      | some 'e' => advance >>= fun _ => readSigned cut
      | some 'E' => advance >>= fun _ => readSigned cut
      | _ => pure none := rfl

/-- The digits of an exponent are read behind its sign. -/
theorem reads_someDigits_bind {down : Bool} {exponent : Option (Bool × List Char)} :
    Reads (readSomeDigits cut >>= fun ds => pure (some (down, ds))) text exponent rest ↔
      ∃ ds, text = ds ++ rest ∧ IsDigits ds ∧ StopsAt Char.isDigit rest ∧
        exponent = some (down, ds) := by
  simp only [reads_bind, reads_readSomeDigits, reads_pure]
  constructor
  · rintro ⟨ds, mid, ⟨rfl, digits, stop⟩, rfl, rfl⟩
    exact ⟨ds, rfl, digits, stop, rfl⟩
  · rintro ⟨ds, rfl, digits, stop, rfl⟩
    exact ⟨ds, rest, ⟨rfl, digits, stop⟩, rfl, rfl⟩

/-- An exponent that is read has been written as a sign and digits. -/
theorem exists_signed {exponent : Option (Bool × List Char)}
    (h : Reads (readSigned cut) text exponent rest) :
    ∃ down sign ds, text = sign ++ (ds ++ rest) ∧ exponent = some (down, ds) ∧
      SignText down sign ∧ IsDigits ds := by
  rw [readSigned, reads_peek_bind] at h
  by_cases plus : text.head? = some '+'
  · obtain ⟨tail, rfl⟩ := List.head?_eq_some_iff.1 plus
    obtain ⟨ds, rfl, digits, -, rfl⟩ := reads_someDigits_bind.1 (reads_advance_bind.1 h)
    exact ⟨_, _, ds, rfl, rfl, .plus, digits⟩
  · by_cases minus : text.head? = some '-'
    · obtain ⟨tail, rfl⟩ := List.head?_eq_some_iff.1 minus
      obtain ⟨ds, rfl, digits, -, rfl⟩ := reads_someDigits_bind.1 (reads_advance_bind.1 h)
      exact ⟨_, _, ds, rfl, rfl, .minus, digits⟩
    · simp only [plus, minus, decide_false, Bool.or_false, Bool.false_eq_true, if_false] at h
      obtain ⟨ds, rfl, digits, -, rfl⟩ := reads_someDigits_bind.1 h
      exact ⟨_, _, ds, rfl, rfl, .absent, digits⟩

/-- An exponent that is written as a sign and digits is read. -/
theorem SignText.reads {down : Bool} {sign ds : List Char} (signed : SignText down sign)
    (digits : IsDigits ds) (stop : StopsAt Char.isDigit rest) :
    Reads (readSigned cut) (sign ++ (ds ++ rest)) (some (down, ds)) rest := by
  have read (down : Bool) :
      Reads (readSomeDigits cut >>= fun ds => pure (some (down, ds))) (ds ++ rest)
        (some (down, ds)) rest := reads_someDigits_bind.2 ⟨ds, rfl, digits, stop, rfl⟩
  rw [readSigned, reads_peek_bind]
  cases signed with
  | plus => exact reads_advance_bind.2 (read false)
  | minus => exact reads_advance_bind.2 (read true)
  | absent =>
    obtain ⟨nonempty, digit⟩ := digits
    obtain ⟨c, ds, rfl⟩ := List.exists_cons_of_ne_nil nonempty
    have first : c.isDigit = true := digit c List.mem_cons_self
    have plus : c ≠ '+' := by
      rintro rfl
      exact nomatch first
    have minus : c ≠ '-' := by
      rintro rfl
      exact nomatch first
    simpa [plus, minus] using read false

/-- An exponent that is read has been written behind its letter. -/
theorem exists_exponentText {exponent : Option (Bool × List Char)}
    (h : Reads (readExponent cut) text exponent rest) :
    ∃ e, text = e ++ rest ∧ ExponentText exponent e := by
  rw [readExponent_eq, reads_peek_bind] at h
  -- Both letters go on in the same way.
  have of_letter {e : Char} (letter : e = 'e' ∨ e = 'E') (front : text.head? = some e)
      (h : Reads (advance >>= fun _ => readSigned cut) text exponent rest) :
      ∃ e, text = e ++ rest ∧ ExponentText exponent e := by
    obtain ⟨tail, rfl⟩ := List.head?_eq_some_iff.1 front
    obtain ⟨down, sign, ds, rfl, rfl, signed, digits⟩ := exists_signed (reads_advance_bind.1 h)
    exact ⟨_, by simp, .present letter signed digits⟩
  split at h
  · next front => exact of_letter (.inl rfl) front h
  · next front => exact of_letter (.inr rfl) front h
  · obtain ⟨rfl, rfl⟩ := reads_pure.1 h
    exact ⟨[], rfl, .absent⟩

/-- An exponent that is written is read, up to where the number ends. -/
theorem ExponentText.reads {exponent : Option (Bool × List Char)} {e : List Char}
    (h : ExponentText exponent e) (stop : Ends rest) :
    Reads (readExponent cut) (e ++ rest) exponent rest := by
  rw [readExponent_eq, reads_peek_bind]
  cases h with
  | absent =>
    rw [List.nil_append]
    split
    · next front => exact absurd rfl (stop 'e' front).2.2.1
    · next front => exact absurd rfl (stop 'E' front).2.2.2
    · exact reads_pure.2 ⟨rfl, rfl⟩
  | present letter signed digits =>
    have read : Reads (readSigned cut) _ _ rest := signed.reads digits stop.stopsAt
    rw [← List.append_assoc] at read
    obtain rfl | rfl := letter <;> exact read

/-- Reads what follows the sign of a number. -/
def readUnsigned (cut : Fault) (negative : Bool) : Reader Numeral :=
  readWhole cut >>= fun whole => readFraction cut >>= fun fraction =>
    readExponent cut >>= fun exponent => pure ⟨negative, whole, fraction, exponent⟩

/-- Whether there is a point is found out before the digits behind it are read. -/
theorem reads_fraction_bind {α : Type} {f : Option (List Char) → Reader α} {a : α} :
    Reads (peek >>= fun c =>
      if c = some '.' then advance >>= fun _ => some <$> readSomeDigits cut >>= f
      else pure none >>= f) text a rest ↔ Reads (readFraction cut >>= f) text a rest := by
  rw [reads_peek_bind, reads_bind]
  simp only [readFraction, reads_peek_bind]
  by_cases point : text.head? = some '.'
  · obtain ⟨tail, rfl⟩ := List.head?_eq_some_iff.1 point
    rw [if_pos point, if_pos point, reads_advance_bind, reads_bind]
    rfl
  · rw [if_neg point, if_neg point, reads_bind]

/-- A numeral is negative if there is a sign in front of it, and unsigned otherwise. -/
theorem reads_readNumeral {w : Numeral} : Reads (readNumeral cut) text w rest ↔
    (∃ tail, text = '-' :: tail ∧ Reads (readUnsigned cut true) tail w rest) ∨
      text.head? ≠ some '-' ∧ Reads (readUnsigned cut false) text w rest := by
  rw [readNumeral, reads_peek_bind]
  -- The reader is written as one sequence of steps, of which what follows the sign is the unsigned
  -- part.
  have unsigned (negative : Bool) (text : List Char) :
      Reads (readWhole cut >>= fun whole => peek >>= fun c =>
        if c = some '.' then advance >>= fun _ => some <$> readSomeDigits cut >>= fun fraction =>
          readExponent cut >>= fun exponent => pure ⟨negative, whole, fraction, exponent⟩
        else pure none >>= fun fraction =>
          readExponent cut >>= fun exponent => pure ⟨negative, whole, fraction, exponent⟩)
        text w rest ↔ Reads (readUnsigned cut negative) text w rest := by
    rw [readUnsigned, reads_bind, reads_bind]
    simp only [reads_fraction_bind]
  by_cases minus : text.head? = some '-'
  · obtain ⟨tail, rfl⟩ := List.head?_eq_some_iff.1 minus
    refine (unsigned true tail).trans ⟨fun h => .inl ⟨tail, rfl, h⟩, ?_⟩
    rintro (⟨tail, ⟨⟩, h⟩ | ⟨ne, -⟩)
    · exact h
    · exact absurd rfl ne
  · simp only [minus, if_false, decide_false]
    refine (unsigned false text).trans ⟨fun h => .inr ⟨minus, h⟩, ?_⟩
    rintro (⟨tail, rfl, -⟩ | ⟨-, h⟩)
    · exact absurd rfl minus
    · exact h

/-- A numeral that is read has been written as a whole part, a fraction and an exponent. -/
theorem exists_unsigned {negative : Bool} {w : Numeral}
    (h : Reads (readUnsigned cut negative) text w rest) :
    ∃ whole f e, text = whole ++ (f ++ (e ++ rest)) ∧ w.negative = negative ∧
      IsWhole whole ∧ w.whole = whole ∧ FractionText w.fraction f ∧ ExponentText w.exponent e := by
  simp only [readUnsigned, reads_bind, reads_readWhole, reads_pure] at h
  obtain ⟨whole, _, ⟨rfl, isWhole, -⟩, fraction, _, read, exponent, _, read', rfl, rfl⟩ := h
  obtain ⟨f, rfl, fractional⟩ := exists_fractionText read
  obtain ⟨e, rfl, exponential⟩ := exists_exponentText read'
  exact ⟨whole, f, e, rfl, rfl, isWhole, rfl, fractional, exponential⟩

/-- What is read as a number is written as one. -/
theorem exists_numeral {w : Numeral} (h : Reads (readNumeral cut) text w rest) :
    ∃ v, text = v ++ rest ∧ w.WrittenAs v := by
  obtain ⟨negative, whole, fraction, exponent⟩ := w
  rcases reads_readNumeral.1 h with ⟨tail, rfl, read⟩ | ⟨-, read⟩
  · obtain ⟨_, f, e, rfl, rfl, isWhole, rfl, fractional, exponential⟩ := exists_unsigned read
    exact ⟨_, by simp, .mk rfl isWhole fractional exponential⟩
  · obtain ⟨_, f, e, rfl, rfl, isWhole, rfl, fractional, exponential⟩ := exists_unsigned read
    exact ⟨_, by simp, .mk rfl isWhole fractional exponential⟩

/-- What is written behind a part of a number, up to its end, does not prolong the digits. -/
theorem Ends.stopsAt_exponent {exponent : Option (Bool × List Char)} {e : List Char}
    (exponential : ExponentText exponent e) (stop : Ends rest) :
    StopsAt Char.isDigit (e ++ rest) ∧ (e ++ rest).head? ≠ some '.' := by
  cases exponential with
  | absent => exact ⟨stop.stopsAt, fun point => absurd rfl (stop '.' point).2.1⟩
  | present letter signed digits =>
    rw [List.cons_append, stopsAt_cons]
    obtain rfl | rfl := letter <;> exact ⟨by decide, by simp⟩

/-- A fraction does not start with a digit. -/
theorem FractionText.stopsAt {fraction : Option (List Char)} {f behind : List Char}
    (fractional : FractionText fraction f) (stop : StopsAt Char.isDigit behind) :
    StopsAt Char.isDigit (f ++ behind) := by
  cases fractional with
  | absent => exact stop
  | present digits => exact stopsAt_cons.2 (by decide)

/-- A number that is written before something else is read. -/
theorem Numeral.WrittenAs.reads {w : Numeral} {v : List Char} (h : w.WrittenAs v)
    (stop : Ends rest) : Reads (readNumeral cut) (v ++ rest) w rest := by
  cases h with
  | @mk negative sign whole f e fraction exponent sign_eq isWhole fractional exponential =>
    obtain ⟨stop_whole, no_point⟩ := Ends.stopsAt_exponent exponential stop
    have unsigned : Reads (readUnsigned cut negative) (whole ++ (f ++ (e ++ rest)))
        ⟨negative, whole, fraction, exponent⟩ rest :=
      (reads_readWhole.2 ⟨rfl, isWhole, fractional.stopsAt stop_whole⟩).bind
        ((fractional.reads stop_whole no_point).bind
          ((exponential.reads stop).bind (reads_pure.2 ⟨rfl, rfl⟩)))
    rw [reads_readNumeral]
    cases negative with
    | true =>
      rw [sign_eq]
      exact .inl ⟨_, rfl, by simpa using unsigned⟩
    | false =>
      rw [sign_eq]
      refine .inr ⟨?_, by simpa using unsigned⟩
      obtain ⟨⟨nonempty, digit⟩, -⟩ := isWhole
      obtain ⟨c, ds, rfl⟩ := List.exists_cons_of_ne_nil nonempty
      rintro ⟨⟩
      exact nomatch digit '-' List.mem_cons_self

/-- A number is skipped just if it could be read. -/
theorem reads_skipNumber {u : Unit} : Reads skipNumber text u rest ↔
    ∃ w, Reads (readNumeral .malformed) text w rest := by
  simp only [skipNumber, reads_bind, reads_pure]
  constructor
  · rintro ⟨w, _, read, -, rfl⟩
    exact ⟨w, read⟩
  · rintro ⟨w, read⟩
    exact ⟨w, rest, read, trivial, rfl⟩

/-- No digit is a space. -/
theorem isSpace_of_isDigit {c : Char} (h : c.isDigit = true) : isSpace c = false := by
  rw [← Bool.not_eq_true]
  intro space
  simp only [isSpace, Bool.or_eq_true, decide_eq_true_eq] at space
  obtain ((rfl | rfl) | rfl) | rfl := space <;> exact nomatch h

/-- What may come first in a number. -/
def startsNumber (c : Char) : Bool := c = '-' || c.isDigit

/-- No number starts with a space. -/
theorem isSpace_of_startsNumber {c : Char} (h : startsNumber c = true) : isSpace c = false := by
  rw [startsNumber, Bool.or_eq_true, decide_eq_true_eq] at h
  rcases h with rfl | digit
  · rfl
  · exact isSpace_of_isDigit digit

/-- What a numeral is written as starts with a sign or a digit. -/
theorem Numeral.WrittenAs.exists_cons {w : Numeral} {v : List Char} (h : w.WrittenAs v) :
    ∃ c cs, v = c :: cs ∧ startsNumber c = true := by
  cases h with
  | @mk negative sign whole f e fraction exponent sign_eq isWhole _ _ =>
    cases negative with
    | true => exact ⟨'-', whole ++ (f ++ e), by rw [sign_eq]; rfl, rfl⟩
    | false =>
      obtain ⟨⟨nonempty, digit⟩, -⟩ := isWhole
      obtain ⟨c, ds, rfl⟩ := List.exists_cons_of_ne_nil nonempty
      refine ⟨c, ds ++ (f ++ e), by rw [sign_eq]; rfl, ?_⟩
      rw [startsNumber, digit c List.mem_cons_self, Bool.or_true]

/-! ## Whole numbers -/

/-- A whole number is written like this. -/
def WritesNatural (n : Nat) (v : List Char) : Prop :=
  ∃ w : Numeral, w.WrittenAs v ∧ w.value = some (.natural n)

/-- Digits write the number that they stand for. -/
theorem writesNatural_digits {ds : List Char} {n : Nat} (whole : IsWhole ds)
    (value : (⟨false, ds, none, none⟩ : Numeral).value = some (.natural n)) :
    WritesNatural n ds := by
  have written : Numeral.WrittenAs ⟨false, ds, none, none⟩ ([] ++ (ds ++ ([] ++ []))) :=
    .mk rfl whole .absent .absent
  exact ⟨_, by simpa using written, value⟩

/-- A number is read just if its numeral is, and has a value. -/
theorem reads_readNumber {n : Number} : Reads readNumber text n rest ↔
    ∃ w, Reads (readNumeral .unfinished) text w rest ∧ w.value = some n := by
  rw [readNumber, reads_bind]
  constructor
  · rintro ⟨w, mid, read, h⟩
    cases value : w.value with
    | none =>
      rw [value] at h
      exact absurd h not_reads_throw
    | some m =>
      rw [value] at h
      obtain ⟨rfl, rfl⟩ := reads_pure.1 h
      exact ⟨w, read, value⟩
  · rintro ⟨w, read, value⟩
    refine ⟨w, rest, read, ?_⟩
    rw [value]
    exact reads_pure.2 ⟨rfl, rfl⟩

variable {limit n : Nat} {expected : String}

/-- A natural number that is read has been written, and is below the limit. -/
theorem exists_natural (h : Reads (readNatural limit expected) text n rest) :
    ∃ sp v, Spaces sp ∧ text = sp ++ (v ++ rest) ∧ WritesNatural n v ∧ n < limit := by
  rw [readNatural, reads_skipSpaces_bind] at h
  obtain ⟨sp, mid, rfl, spaces, -, h⟩ := h
  split at h
  · exact absurd h not_reads_throw
  · split at h
    · obtain ⟨number, mid', read, h⟩ := reads_bind.1 h
      obtain ⟨w, numeral, value⟩ := reads_readNumber.1 read
      obtain ⟨v, rfl, written⟩ := exists_numeral numeral
      cases number with
      | natural m =>
        dsimp only at h
        by_cases lt : m < limit
        · rw [if_pos lt] at h
          obtain ⟨rfl, rfl⟩ := reads_pure.1 h
          exact ⟨sp, v, spaces, rfl, ⟨w, written, value⟩, lt⟩
        · rw [if_neg lt] at h
          exact absurd h not_reads_throw
      | negative m => exact absurd h not_reads_throw
      | float x => exact absurd h not_reads_throw
    · exact absurd h not_reads_mismatch

/-- A whole number that is small enough is read if something else follows. -/
theorem WritesNatural.reads {sp v : List Char} (h : WritesNatural n v) (lt : n < limit)
    (spaces : Spaces sp) (stop : Ends rest) :
    Reads (readNatural limit expected) (sp ++ (v ++ rest)) n rest := by
  obtain ⟨w, written, value⟩ := h
  have read : Reads (readNumeral .unfinished) (v ++ rest) w rest := written.reads stop
  obtain ⟨c, cs, rfl, first⟩ := written.exists_cons
  rw [readNatural, reads_skipSpaces_bind]
  refine ⟨sp, _, rfl, spaces, stopsAt_cons.2 (isSpace_of_startsNumber first), ?_⟩
  rw [List.cons_append, List.head?_cons]
  dsimp only
  rw [if_pos (show (decide (c = '-') || c.isDigit) = true from first)]
  refine (reads_readNumber.2 ⟨w, read, value⟩).bind ?_
  dsimp only
  rw [if_pos lt]
  exact reads_pure.2 ⟨rfl, rfl⟩

end PaymentChannel.Json
