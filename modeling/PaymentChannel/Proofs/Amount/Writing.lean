import PaymentChannel.Proofs.Amount.Reading

/-!
# Writing amounts

Base units are written as the one canonical numeral of their value in tokens. What is written is
read back as it was, and reading any text and writing what was read makes the text canonical.

* `Amount.exists_canonical`: what is written is a canonical numeral, of the right value;
* `format_canonical`: it is the only one; hence what is read back, and which amounts and texts come
  to be written alike.
-/

namespace PaymentChannel

namespace Amount

/-- A number is written without a zero in front that could be left out. -/
theorem Digits.exists_toDigits (n : Nat) :
    ∃ ds, Normal ds ∧ toNat ds = n ∧ Nat.toDigits 10 n = ds.map Digit.char := by
  induction n using Nat.strong_induction_on with
  | _ n ih =>
    by_cases small : n < 10
    · refine ⟨[⟨n, small⟩], ⟨List.cons_ne_nil _ _, fun zero => ?_⟩, toNat_singleton _, ?_⟩
      · rw [Option.some.inj zero]
      · exact Nat.toDigits_of_lt_base small
    · have large := Nat.le_of_not_lt small
      obtain ⟨ds, normal, value, digits⟩ := ih (n / 10) (by omega)
      refine ⟨ds ++ [⟨n % 10, Nat.mod_lt n (by decide)⟩], ⟨?_, fun zero => ?_⟩, ?_, ?_⟩
      · simp
      · -- What is left of a number that has more than one digit is not zero.
        rw [List.head?_append_of_ne_nil _ normal.nonempty] at zero
        rw [normal.eq_zero zero, toNat_singleton] at value
        change 0 = n / 10 at value
        omega
      · rw [toNat_append, value, toNat_singleton, List.length_singleton]
        change n / 10 * 10 ^ 1 + n % 10 = n
        omega
      · rw [Nat.toDigits_of_base_le (by decide) large, digits, List.map_append]
        rfl

/-- Digits that were filled up with zeros in front, so that there are more than `d` of them, have no
    zero that could be left out in front of the last `d` of them. -/
theorem Digits.Normal.take_filled {ds : List Digit} (h : Normal ds) (d : Nat) :
    Normal ((List.replicate (d + 1 - ds.length) 0 ++ ds).take
      ((List.replicate (d + 1 - ds.length) 0 ++ ds).length - d)) := by
  rw [List.length_append, List.length_replicate]
  -- Either a single one of the zeros is left in front, or none was filled in.
  by_cases short : ds.length ≤ d
  · obtain ⟨k, rfl⟩ := Nat.exists_eq_add_of_le short
    rw [show ds.length + k + 1 - ds.length = k + 1 by omega,
      show k + 1 + ds.length - (ds.length + k) = 1 by omega]
    exact ⟨List.cons_ne_nil _ _, fun _ => rfl⟩
  · rw [show d + 1 - ds.length = 0 by omega, List.replicate_zero, List.nil_append, Nat.zero_add]
    obtain ⟨k, length_eq⟩ := Nat.exists_eq_add_of_lt (Nat.lt_of_not_le short)
    rw [show ds.length - d = k + 1 by omega]
    obtain ⟨digit, more, rfl⟩ := List.exists_cons_of_ne_nil h.nonempty
    refine ⟨List.cons_ne_nil _ _, fun zero => ?_⟩
    rw [h.eq_zero zero, List.take_succ_cons, List.take_nil]

theorem stripZeros_map_char (ds : List Digit) :
    stripZeros (ds.map Digit.char) = (ds.rdropWhile (· = 0)).map Digit.char := by
  have zero : ((fun c : Char => decide (c = '0')) ∘ Digit.char) = fun d => decide (d = 0) := by
    funext d
    exact decide_eq_decide.2 (Digit.char_inj (e := 0))
  rw [stripZeros, ← List.map_reverse, List.dropWhile_map, zero, ← List.map_reverse]
  rfl

/-- How the digits before and after the point are written. -/
def joinPoint (whole fraction : List Char) : String :=
  match stripZeros fraction with
  | [] => String.ofList whole
  | places => String.ofList (whole ++ '.' :: places)

theorem format_eq_joinPoint {units : UInt256} {d : UInt8} {whole fraction : List Char}
    (split : let digits := Nat.toDigits 10 units.toNat
      let padded := List.replicate (d.toNat + 1 - digits.length) '0' ++ digits
      padded.splitAt (padded.length - d.toNat) = (whole, fraction)) :
    format units d = joinPoint whole fraction :=
  congrArg (fun parts : List Char × List Char => joinPoint parts.1 parts.2) split

theorem joinPoint_map_char {whole fraction : List Digit} (nonempty : whole ≠ []) :
    joinPoint (whole.map Digit.char) (fraction.map Digit.char) =
      String.ofList (Numeral.reduced whole fraction nonempty).spell := by
  rw [Numeral.spell, Numeral.fraction_reduced, joinPoint, stripZeros_map_char]
  cases fraction.rdropWhile (· = 0) with
  | nil =>
    rw [List.append_nil]
    rfl
  | cons d ds => rfl

/-- A number is cut in two before its last `d` digits, filled up with zeros in front as needed. -/
theorem exists_split (n d : Nat) :
    let digits := Nat.toDigits 10 n
    let padded := List.replicate (d + 1 - digits.length) '0' ++ digits
    ∃ whole fraction : List Digit, Digits.Normal whole ∧ fraction.length = d ∧
      Digits.toNat (whole ++ fraction) = n ∧
      padded.splitAt (padded.length - d) = (whole.map Digit.char, fraction.map Digit.char) := by
  intro digits padded
  obtain ⟨ds, normal, value, digits_eq⟩ := Digits.exists_toDigits n
  have padded_eq : padded = (List.replicate (d + 1 - ds.length) 0 ++ ds).map Digit.char := by
    rw [List.map_append, List.map_replicate, ← digits_eq, ← List.length_map Digit.char, ← digits_eq]
    rfl
  have length_eq : padded.length = (List.replicate (d + 1 - ds.length) 0 ++ ds).length := by
    rw [padded_eq, List.length_map]
  refine ⟨_, List.drop (padded.length - d) (List.replicate (d + 1 - ds.length) 0 ++ ds),
    normal.take_filled d, ?_, ?_, ?_⟩
  · rw [length_eq, List.length_drop, List.length_append, List.length_replicate]
    omega
  · rw [length_eq, List.take_append_drop, Digits.toNat_append, Digits.toNat_replicate_zero, value,
      Nat.zero_mul, Nat.zero_add]
  · rw [List.splitAt_eq, List.map_take, List.map_drop, ← padded_eq, length_eq]

/-- Base units are written as a canonical numeral of their value in tokens, which has no more places
    than the token. -/
theorem exists_canonical (units : UInt256) (d : UInt8) :
    ∃ x : Numeral, x.Canonical ∧ x.places.length ≤ d.toNat ∧
      x.value * 10 ^ d.toNat = units.toNat ∧ format units d = String.ofList x.spell := by
  obtain ⟨whole, fraction, normal, length_eq, value, split⟩ := exists_split units.toNat d.toNat
  have short : (Numeral.reduced whole fraction normal.nonempty).places.length ≤ d.toNat := by
    rw [Numeral.places_reduced, ← length_eq]
    exact (List.rdropWhile_prefix _ _).length_le
  refine ⟨_, Numeral.canonical_reduced normal.nonempty normal, short, ?_, ?_⟩
  · rw [Numeral.value_mul_pow _ short, ← length_eq, Numeral.filled_reduced, value]
  · rw [format_eq_joinPoint split, joinPoint_map_char]

variable {d : UInt8}

/-- What is written is the canonical numeral of its value. -/
theorem format_eq_iff {units : UInt256} {x : Numeral} :
    format units d = String.ofList x.spell ↔
      x.Canonical ∧ x.value = units.toNat / 10 ^ d.toNat := by
  obtain ⟨y, canonical, -, value, format_eq⟩ := exists_canonical units d
  have value : y.value = units.toNat / 10 ^ d.toNat := by
    rw [← value, mul_div_cancel_right₀ _ (by positivity)]
  rw [format_eq, Numeral.ofList_spell_inj]
  constructor
  · rintro rfl
    exact ⟨canonical, value⟩
  · rintro ⟨canonical', value'⟩
    exact canonical.eq_of_value_eq canonical' (value.trans value'.symm)

/-- What is written alike has the same value. -/
theorem format_eq_format_iff {m n : UInt256} {e : UInt8} :
    format m d = format n e ↔ (m.toNat / 10 ^ d.toNat : ℚ) = n.toNat / 10 ^ e.toNat := by
  obtain ⟨x, -, -, -, m_eq⟩ := exists_canonical m d
  obtain ⟨canonical, value⟩ := format_eq_iff.1 m_eq
  rw [m_eq, eq_comm, format_eq_iff, ← value]
  exact ⟨fun h => h.2, fun h => ⟨canonical, h⟩⟩

end Amount

variable {text : String} {d : UInt8}

/-- What is read of a text are the base units of the value that it denotes. -/
theorem value_eq_of_toBaseUnits {x : Amount.Numeral} {n : UInt256} (spelled : x.SpelledIn text)
    (read : toBaseUnits text d = .ok n) : x.value = n.toNat / 10 ^ d.toNat := by
  obtain ⟨-, -, n_eq⟩ :=
    (Amount.parse_eq_ok_iff_of_spelledIn spelled).1 (toBaseUnits_eq_ok_iff_parse.1 read)
  rw [n_eq, mul_div_cancel_right₀ _ (by positivity)]

theorem toBaseUnits_format (units : UInt256) (d : UInt8) :
    toBaseUnits (Amount.format units d) d = .ok units := by
  obtain ⟨x, -, short, value, format_eq⟩ := Amount.exists_canonical units d
  rw [toBaseUnits_eq_ok_iff_parse, format_eq,
    Amount.parse_eq_ok_iff_of_spelledIn x.spelledIn_ofList, value]
  exact ⟨short, by exact_mod_cast units.isLt, rfl⟩

/-- Reading undoes writing, and writing makes canonical. What is written is read back as it was, and
    is the one canonical numeral of its value: hence amounts of a token are written alike just if
    they are equal, and what is read of two texts just if these denote the same value. -/
theorem format_canonical :
    (∀ units d, toBaseUnits (Amount.format units d) d = .ok units ∧
      (∃ x : Amount.Numeral, Amount.format units d = String.ofList x.spell) ∧
      ∀ x : Amount.Numeral, Amount.format units d = String.ofList x.spell ↔
        x.Canonical ∧ x.value = units.toNat / 10 ^ d.toNat) ∧
    (∀ d m n, Amount.format m d = Amount.format n d ↔ m = n) ∧
    (∀ (text other : String) (x y : Amount.Numeral) d e m n, x.SpelledIn text → y.SpelledIn other →
      toBaseUnits text d = .ok m → toBaseUnits other e = .ok n →
        (Amount.format m d = Amount.format n e ↔ x.value = y.value)) := by
  refine ⟨fun units d => ⟨toBaseUnits_format units d, ?_, fun x => Amount.format_eq_iff⟩,
    fun d m n => ⟨fun h => ?_, congrArg (Amount.format · d)⟩,
    fun text other x y d e m n spelled spelled' read read' => ?_⟩
  · obtain ⟨x, -, -, -, format_eq⟩ := Amount.exists_canonical units d
    exact ⟨x, format_eq⟩
  · have := toBaseUnits_format m d
    rw [h, toBaseUnits_format] at this
    exact (Except.ok.inj this).symm
  · rw [Amount.format_eq_format_iff, value_eq_of_toBaseUnits spelled read,
      value_eq_of_toBaseUnits spelled' read']

/-- One and a half, once with a space in front and a zero at the end and once with a zero in front,
    of tokens with six and with two decimals: both are written as `1.5`, being of one value. -/
theorem format_canonical_alike :
    let x : Amount.Numeral := ⟨[1], some [5, 0], by decide⟩
    let y : Amount.Numeral := ⟨[0, 1], some [5], by decide⟩
    x.SpelledIn " 1.50" ∧ y.SpelledIn "01.5" ∧
    toBaseUnits " 1.50" 6 = .ok 1500000 ∧ toBaseUnits "01.5" 2 = .ok 150 ∧
    Amount.format 1500000 6 = "1.5" ∧ Amount.format 150 2 = "1.5" ∧ x.value = y.value := by
  intro x y
  have spelled : x.SpelledIn " 1.50" := by
    refine ⟨⟨[' '], [], rfl, by simp [Text.isBlank], nofun⟩, ?_, ?_⟩ <;> rintro c ⟨⟩ <;> rfl
  have spelled' : y.SpelledIn "01.5" := by
    refine ⟨⟨[], [], rfl, nofun, nofun⟩, ?_, ?_⟩ <;> rintro c ⟨⟩ <;> rfl
  have read : toBaseUnits " 1.50" 6 = .ok 1500000 := rfl
  have read' : toBaseUnits "01.5" 2 = .ok 150 := rfl
  have written : Amount.format 1500000 6 = "1.5" := rfl
  have written' : Amount.format 150 2 = "1.5" := rfl
  obtain ⟨-, -, alike⟩ := format_canonical
  have value_eq := (alike " 1.50" "01.5" x y 6 2 _ _ spelled spelled' read read').1
    (written.trans written'.symm)
  exact ⟨spelled, spelled', read, read', written, written', value_eq⟩

end PaymentChannel
