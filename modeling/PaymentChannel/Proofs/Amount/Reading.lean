import PaymentChannel.Assets
import PaymentChannel.Proofs.Amount.Numeral

/-!
# Reading amounts

An amount is read from a text that spells a numeral, with white space around it or not. It is read
exactly, and only if that is possible: the numeral must not have more places than the token, and the
base units must fit into 256 bits.

* `Text.trim_eq_iff`: what the text is without the white space around it;
* `Amount.parse_of_spelledIn`, `Amount.parse_of_unspelled`: what is read from any text, and why some
  texts are refused;
* `toBaseUnits_exact`: which texts are read, and that they are read exactly.
-/

namespace PaymentChannel

/-! ## White space around a text -/

namespace Text

/-- A text without the white space around it. -/
structure Trimmed (text body : List Char) : Prop where
  around : ∃ front back, text = front ++ body ++ back ∧ (∀ c ∈ front, isBlank c) ∧
    ∀ c ∈ back, isBlank c
  head : ∀ c ∈ body.head?, isBlank c = false
  last : ∀ c ∈ body.getLast?, isBlank c = false

/-- Blanks are dropped at the beginning, and then at the end. -/
theorem trim_eq_rdropWhile (text : List Char) :
    trim text = (text.dropWhile isBlank).rdropWhile isBlank := rfl

/-- What is left over is trimmed. -/
theorem trimmed_trim (text : List Char) : Trimmed text (trim text) := by
  rw [trim_eq_rdropWhile]
  generalize rest_eq : text.dropWhile isBlank = rest
  have text_eq : text = text.takeWhile isBlank ++ rest := by
    rw [← rest_eq, List.takeWhile_append_dropWhile]
  refine ⟨⟨text.takeWhile isBlank, rest.rtakeWhile isBlank, ?_, fun c => List.mem_takeWhile_imp,
    fun c => List.mem_rtakeWhile_imp⟩, fun c first => ?_, fun c last => ?_⟩
  · rw [List.append_assoc, List.rdropWhile_append_rtakeWhile, ← text_eq]
  · -- The first character that is left over is the first one that is no white space.
    obtain ⟨more, prefix_eq⟩ := List.rdropWhile_prefix isBlank rest
    have first : rest.head? = some c := by
      rw [← prefix_eq, List.head?_append, Option.mem_def.1 first, Option.some_or]
    have := List.head?_dropWhile_not isBlank text
    rwa [rest_eq, first] at this
  · obtain ⟨front, last⟩ := List.getLast?_eq_some_iff.1 last
    have nonempty : rest.rdropWhile isBlank ≠ [] := by simp [last]
    have := List.rdropWhile_last_not isBlank rest nonempty
    simpa [last] using this

/-- There is one way of trimming a text. -/
theorem trim_eq_iff {text body : List Char} : trim text = body ↔ Trimmed text body := by
  refine ⟨fun h => h ▸ trimmed_trim text, ?_⟩
  rintro ⟨⟨front, back, text_eq, hfront, hback⟩, head, last⟩
  rw [trim_eq_rdropWhile, text_eq, List.append_assoc, List.dropWhile_append_of_pos hfront]
  cases body with
  | nil =>
    rw [List.nil_append, List.dropWhile_eq_nil_iff.2 hback]
    rfl
  | cons c body =>
    have nonblank : ¬isBlank c := by simp [head c rfl]
    rw [List.cons_append, List.dropWhile_cons_of_neg nonblank, ← List.cons_append, List.rdropWhile,
      List.reverse_append, List.dropWhile_append_of_pos (by simpa using hback)]
    refine List.rdropWhile_eq_self_iff.2 fun nonempty => ?_
    simp [last _ (List.getLast?_eq_some_getLast nonempty)]

end Text

namespace Amount

/-! ## Numerals as texts -/

namespace Digit

theorem isDigit_char (d : Digit) : d.char.isDigit := by
  revert d
  decide

/-- No digit is a point. -/
theorem char_ne_point (d : Digit) : d.char ≠ '.' := by
  revert d
  decide

/-- No digit is blank. -/
theorem isBlank_char (d : Digit) : Text.isBlank d.char = false := by
  revert d
  decide

theorem toNat_char (d : Digit) : d.char.toNat - '0'.toNat = d := by
  revert d
  decide

/-- Digits are told apart by their characters. -/
theorem char_inj {d e : Digit} : d.char = e.char ↔ d = e := by
  revert d e
  decide

/-- The characters that are digits are those of the ten digits. -/
theorem exists_char {c : Char} (h : c.isDigit) : ∃ d : Digit, d.char = c := by
  have bounds : 48 ≤ c.toNat ∧ c.toNat ≤ 57 := by
    simpa [Char.isDigit, UInt32.le_iff_toNat_le] using h
  rw [← Char.ofNat_toNat c]
  generalize c.toNat = n at bounds
  obtain ⟨low, high⟩ := bounds
  refine ⟨⟨n - 48, by omega⟩, ?_⟩
  interval_cases n <;> rfl

/-- A text of digits spells some digits. -/
theorem exists_map_char {cs : List Char} (h : ∀ c ∈ cs, c.isDigit) :
    ∃ ds : List Digit, ds.map char = cs := by
  induction cs with
  | nil => exact ⟨[], rfl⟩
  | cons c cs ih =>
    obtain ⟨d, rfl⟩ := exists_char (h c List.mem_cons_self)
    obtain ⟨ds, rfl⟩ := ih fun c hc => h c (List.mem_cons_of_mem _ hc)
    exact ⟨d :: ds, rfl⟩

end Digit

/-- The value of a text of digits is the number of these digits. -/
theorem digitsValue_map_char (ds : List Digit) :
    digitsValue (ds.map Digit.char) = Digits.toNat ds := by
  -- Digits are read from left to right, so that the last one is what a step adds.
  induction ds using List.reverseRecOn with
  | nil => rfl
  | append_singleton ds d ih =>
    rw [digitsValue] at ih
    rw [Digits.toNat_append, Digits.toNat_singleton, digitsValue, List.map_append,
      List.foldl_append, ih]
    change 10 * Digits.toNat ds + (d.char.toNat - '0'.toNat) = _
    rw [Digit.toNat_char, List.length_singleton, Nat.pow_one, Nat.mul_comm]

/-- A spelled numeral is split into its whole part and its places. -/
theorem splitPoint_spell (x : Numeral) :
    splitPoint x.spell = (x.whole.map Digit.char, x.places.map Digit.char) := by
  have whole : ∀ c ∈ x.whole.map Digit.char, decide (c ≠ '.') = true := by
    intro c hc
    obtain ⟨d, -, rfl⟩ := List.mem_map.1 hc
    exact decide_eq_true d.char_ne_point
  unfold splitPoint Numeral.spell Numeral.places
  rw [List.takeWhile_append_of_pos whole, List.dropWhile_append_of_pos whole]
  cases x.fraction with
  | none => simp
  | some ds => simp

/-- Digits, with a point among them or not, spell a numeral. -/
theorem exists_spell {body : List Char} {whole fraction : List Char}
    (split : splitPoint body = (whole, fraction)) (nonempty : whole ++ fraction ≠ [])
    (digits : ∀ c ∈ whole ++ fraction, c.isDigit) : ∃ x : Numeral, x.spell = body := by
  obtain ⟨rfl, rfl⟩ := Prod.mk.inj split
  obtain ⟨ds, ds_eq⟩ := Digit.exists_map_char fun c hc => digits c (List.mem_append_left _ hc)
  obtain ⟨es, es_eq⟩ := Digit.exists_map_char fun c hc => digits c (List.mem_append_right _ hc)
  rw [← ds_eq, ← es_eq, ← List.map_append] at nonempty
  have nonempty : ds ++ es ≠ [] := fun empty => nonempty (congrArg _ empty)
  have body_eq := List.takeWhile_append_dropWhile (p := fun c => decide (c ≠ '.')) (l := body)
  have head := List.head?_dropWhile_not (fun c => decide (c ≠ '.')) body
  -- What follows the digits of the whole part is either nothing or starts with the point.
  cases rest_eq : body.dropWhile fun c => decide (c ≠ '.') with
  | nil =>
    rw [rest_eq] at es_eq body_eq
    obtain rfl := List.map_eq_nil_iff.1 es_eq
    refine ⟨⟨ds, none, nonempty⟩, ?_⟩
    rw [Numeral.spell, ds_eq, body_eq]
  | cons c rest =>
    rw [rest_eq] at es_eq body_eq head
    obtain rfl : c = '.' := by simpa using head
    refine ⟨⟨ds, some es, nonempty⟩, ?_⟩
    change ds.map Digit.char ++ '.' :: es.map Digit.char = body
    rw [ds_eq, es_eq]
    exact body_eq

/-- There are no digits at all in an empty text and in a lone point. -/
theorem splitPoint_eq_nil_iff {body : List Char} :
    splitPoint body = ([], []) ↔ body = [] ∨ body = ['.'] := by
  constructor
  · intro split
    obtain ⟨whole, fraction⟩ := Prod.mk.inj split
    rcases body with _ | ⟨c, body⟩
    · exact .inl rfl
    · have c_eq : c = '.' := by simpa using List.takeWhile_eq_nil_iff.1 whole (by simp)
      subst c_eq
      simp at fraction
      exact .inr (by rw [fraction])
  · rintro (rfl | rfl) <;> rfl

namespace Numeral

variable {x y : Numeral}

/-- Numerals are told apart by their spelling. -/
theorem spell_inj : x.spell = y.spell ↔ x = y := by
  have map_char_inj {ds es : List Digit} : ds.map Digit.char = es.map Digit.char → ds = es :=
    (List.map_inj_right fun _ _ => Digit.char_inj.1).1
  refine ⟨fun h => ?_, congrArg spell⟩
  have wholes_eq : x.whole = y.whole := by
    have := congrArg (fun text => (splitPoint text).1) h
    rw [splitPoint_spell, splitPoint_spell] at this
    exact map_char_inj this
  rw [spell, spell, wholes_eq, List.append_cancel_left_eq] at h
  refine Numeral.ext wholes_eq ?_
  generalize x.fraction = fraction at h ⊢
  generalize y.fraction = other at h ⊢
  rcases fraction with _ | ds <;> rcases other with _ | es
  · rfl
  · exact nomatch h
  · exact nomatch h
  · exact congrArg some (map_char_inj (List.cons.inj h).2)

/-- Numerals are told apart by the text that spells them. -/
theorem ofList_spell_inj : String.ofList x.spell = String.ofList y.spell ↔ x = y := by
  rw [String.ofList_inj, spell_inj]

/-- A text spells a numeral, with white space around it or not. -/
def SpelledIn (x : Numeral) (text : String) : Prop := Text.Trimmed text.toList x.spell

/-- The text of a numeral spells it, and there is no white space around it. -/
theorem spelledIn_ofList (x : Numeral) : x.SpelledIn (String.ofList x.spell) := by
  have nonblank : ∀ c ∈ x.spell, Text.isBlank c = false := by
    intro c hc
    rcases List.mem_append.1 hc with hc | hc
    · obtain ⟨d, -, rfl⟩ := List.mem_map.1 hc
      exact d.isBlank_char
    · cases hx : x.fraction with
      | none => simp [hx] at hc
      | some ds =>
        rw [hx] at hc
        rcases List.mem_cons.1 hc with rfl | hc
        · rfl
        · obtain ⟨d, -, rfl⟩ := List.mem_map.1 hc
          exact d.isBlank_char
  refine ⟨⟨[], [], by simp, nofun, nofun⟩, fun c first => ?_, fun c last => ?_⟩
  · exact nonblank c (List.mem_of_head? first)
  · exact nonblank c (List.mem_of_getLast? last)

end Numeral

/-! ## What is read -/

variable {text : String} {d : UInt8} {x : Numeral}

/-- A number is an amount if it has 256 bits at most. -/
theorem ofNat?_eq (n : Nat) :
    UInt256.ofNat? n = if n < 2 ^ 256 then some (BitVec.ofNat 256 n) else none := by
  unfold UInt256.ofNat?
  simp only [BitVec.toNat_ofNat, Nat.mod_eq_iff_lt (by decide : 2 ^ 256 ≠ 0)]

/-- Places that are not there are filled with zeros. -/
theorem map_char_filled (x : Numeral) (d : Nat) : (x.filled d).map Digit.char =
    x.whole.map Digit.char ++ x.places.map Digit.char ++
      List.replicate (d - x.places.length) '0' := by
  rw [Numeral.filled, List.map_append, List.map_append, List.map_replicate]
  rfl

/-- A text that spells a numeral is read, unless the numeral has too many places or is too large. -/
theorem parse_of_spelledIn (h : x.SpelledIn text) :
    parse text d =
      if d.toNat < x.places.length then .error .tooManyPlaces
      else if Digits.toNat (x.filled d.toNat) < 2 ^ 256 then
        .ok (BitVec.ofNat 256 (Digits.toNat (x.filled d.toNat)))
      else .error .tooLarge := by
  have nonempty :
      ((x.whole.map Digit.char).isEmpty && (x.places.map Digit.char).isEmpty) = false := by
    rw [Bool.eq_false_iff, Ne, Bool.and_eq_true, List.isEmpty_iff, List.isEmpty_iff,
      List.map_eq_nil_iff, List.map_eq_nil_iff, ← List.append_eq_nil_iff]
    exact x.nonempty
  have digits : (x.whole.map Digit.char ++ x.places.map Digit.char).all Char.isDigit = true := by
    rw [← List.map_append, List.all_map, List.all_eq_true]
    exact fun d _ => d.isDigit_char
  unfold parse
  rw [Text.trim_eq_iff.2 h, splitPoint_spell]
  simp only [nonempty, digits, List.length_map, ← map_char_filled, digitsValue_map_char, ofNat?_eq]
  by_cases large : Digits.toNat (x.filled d.toNat) < 2 ^ 256
  · rw [if_pos large, if_pos large]
    rfl
  · rw [if_neg large, if_neg large]
    rfl

/-- A text that spells no numeral is not read. -/
theorem parse_of_unspelled (h : ∀ x : Numeral, ¬x.SpelledIn text) :
    parse text d = if Text.trim text.toList = [] ∨ Text.trim text.toList = ['.'] then .error .empty
      else .error .notDecimal := by
  have unspelled (x : Numeral) : x.spell ≠ Text.trim text.toList := fun spell_eq =>
    h x (Text.trim_eq_iff.1 spell_eq.symm)
  unfold parse
  generalize Text.trim text.toList = body at *
  rcases split : splitPoint body with ⟨whole, fraction⟩
  by_cases empty : body = [] ∨ body = ['.']
  · rw [splitPoint_eq_nil_iff.2 empty] at split
    obtain ⟨rfl, rfl⟩ := Prod.mk.inj split
    rw [if_pos empty]
    rfl
  · rw [if_neg empty]
    rw [← splitPoint_eq_nil_iff, split, Prod.mk.injEq] at empty
    have nonempty : (whole.isEmpty && fraction.isEmpty) = false := by
      rwa [Bool.eq_false_iff, Ne, Bool.and_eq_true, List.isEmpty_iff, List.isEmpty_iff]
    -- With digits only, it would spell a numeral.
    have other : (whole ++ fraction).all Char.isDigit = false := by
      rw [Bool.eq_false_iff, Ne, List.all_eq_true]
      intro digits
      rw [← List.append_eq_nil_iff] at empty
      obtain ⟨x, spell_eq⟩ := exists_spell split empty digits
      exact unspelled x spell_eq
    simp only [nonempty, other]
    rfl

/-- Of a text that spells a numeral, the base units are read that it denotes, exactly. -/
theorem parse_eq_ok_iff_of_spelledIn (h : x.SpelledIn text) {n : UInt256} :
    parse text d = .ok n ↔ x.places.length ≤ d.toNat ∧ x.value * 10 ^ d.toNat < 2 ^ 256 ∧
      (n.toNat : ℚ) = x.value * 10 ^ d.toNat := by
  rw [parse_of_spelledIn h]
  by_cases long : d.toNat < x.places.length
  · rw [if_pos long]
    exact ⟨nofun, fun ⟨short, _⟩ => absurd long (Nat.not_lt_of_le short)⟩
  have short := Nat.le_of_not_lt long
  rw [if_neg long, x.value_mul_pow short]
  norm_cast
  by_cases small : Digits.toNat (x.filled d.toNat) < 2 ^ 256
  · rw [if_pos small, Except.ok.injEq, ← BitVec.toNat_inj, BitVec.toNat_ofNat,
      Nat.mod_eq_of_lt small]
    exact ⟨fun n_eq => ⟨short, small, n_eq.symm⟩, fun ⟨_, _, n_eq⟩ => n_eq.symm⟩
  · rw [if_neg small]
    exact ⟨nofun, fun ⟨_, small', _⟩ => absurd small' small⟩

/-- There are as many base units as the numeral denotes, unless it has too many places or is too
    large. -/
theorem Numeral.exists_units (x : Numeral) (short : x.places.length ≤ d.toNat)
    (small : x.value * 10 ^ d.toNat < 2 ^ 256) :
    ∃ n : UInt256, (n.toNat : ℚ) = x.value * 10 ^ d.toNat := by
  rw [x.value_mul_pow short] at small ⊢
  have fits : Digits.toNat (x.filled d.toNat) < 2 ^ 256 := by exact_mod_cast small
  exact ⟨BitVec.ofNat 256 _, by rw [BitVec.toNat_ofNat, Nat.mod_eq_of_lt fits]⟩

/-- Of any text, base units are read exactly, or not at all. -/
theorem parse_eq_ok_iff {n : UInt256} :
    parse text d = .ok n ↔ ∃ x : Numeral, x.SpelledIn text ∧ x.places.length ≤ d.toNat ∧
      x.value * 10 ^ d.toNat < 2 ^ 256 ∧ (n.toNat : ℚ) = x.value * 10 ^ d.toNat := by
  constructor
  · intro parsed
    by_cases spelled : ∃ x : Numeral, x.SpelledIn text
    · obtain ⟨x, spelled⟩ := spelled
      exact ⟨x, spelled, (parse_eq_ok_iff_of_spelledIn spelled).1 parsed⟩
    · rw [parse_of_unspelled fun x h => spelled ⟨x, h⟩] at parsed
      split at parsed <;> exact nomatch parsed
  · rintro ⟨x, spelled, exactly⟩
    exact (parse_eq_ok_iff_of_spelledIn spelled).2 exactly

end Amount

/-- Amounts are read in base units just if they can be parsed, as the same number. -/
theorem toBaseUnits_eq_ok_iff_parse {text : String} {d : UInt8} {n : UInt256} :
    toBaseUnits text d = .ok n ↔ Amount.parse text d = .ok n := by
  unfold toBaseUnits
  cases Amount.parse text d <;> simp [Except.mapError]

/-- Amounts are read exactly or not at all. A text is read if it spells a numeral, with white space
    around it or not, that has no more places than the token and is less than `2 ^ 256` in base
    units; and what is read are these base units. All other texts are refused as amounts. -/
theorem toBaseUnits_exact (text : String) (d : UInt8) :
    (∀ n, toBaseUnits text d = .ok n ↔ ∃ x : Amount.Numeral, x.SpelledIn text ∧
      x.places.length ≤ d.toNat ∧ x.value * 10 ^ d.toNat < 2 ^ 256 ∧
      (n.toNat : ℚ) = x.value * 10 ^ d.toNat) ∧
    ((∃ n, toBaseUnits text d = .ok n) ↔ ∃ x : Amount.Numeral, x.SpelledIn text ∧
      x.places.length ≤ d.toNat ∧ x.value * 10 ^ d.toNat < 2 ^ 256) ∧
    ((∃ n, toBaseUnits text d = .ok n) ∨
      ∃ reason, toBaseUnits text d = .error (.invalidParameter "amount" reason)) := by
  refine ⟨fun n => toBaseUnits_eq_ok_iff_parse.trans Amount.parse_eq_ok_iff, ⟨?_, ?_⟩, ?_⟩
  · rintro ⟨n, read⟩
    obtain ⟨x, spelled, short, small, -⟩ :=
      Amount.parse_eq_ok_iff.1 (toBaseUnits_eq_ok_iff_parse.1 read)
    exact ⟨x, spelled, short, small⟩
  · rintro ⟨x, spelled, short, small⟩
    obtain ⟨n, n_eq⟩ := x.exists_units short small
    have exactly : ∃ y : Amount.Numeral, y.SpelledIn text ∧ y.places.length ≤ d.toNat ∧
        y.value * 10 ^ d.toNat < 2 ^ 256 ∧ (n.toNat : ℚ) = y.value * 10 ^ d.toNat :=
      ⟨x, spelled, short, small, n_eq⟩
    exact ⟨n, toBaseUnits_eq_ok_iff_parse.2 (Amount.parse_eq_ok_iff.2 exactly)⟩
  · unfold toBaseUnits
    cases Amount.parse text d with
    | ok n => exact .inl ⟨n, rfl⟩
    | error e => exact .inr ⟨_, rfl⟩

example : toBaseUnits " .50" 2 = .ok 50 := rfl

end PaymentChannel
