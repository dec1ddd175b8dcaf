import Mathlib

/-!
# Numerals

A `Numeral` is what people write for an amount: digits, and perhaps a point with digits after it. It
has a text (`Numeral.spell`) and denotes a rational number (`Numeral.value`). The same number has
many numerals, with more or fewer zeros at the ends, but only one that is *canonical*.

* `Numeral.value_mul_pow`: in units of which `10 ^ d` make up one, a numeral with up to `d` places
  is a natural number, and its digits spell it;
* `Numeral.Canonical.eq_of_value_eq`: canonical numerals are told apart by their values;
* `Numeral.canonical_reduced`: leaving out zeros makes a numeral canonical.
-/

namespace PaymentChannel.Amount

/-! ## Digits -/

/-- The digits from zero to nine. -/
abbrev Digit := Fin 10

/-- The character of a digit. -/
def Digit.char (d : Digit) : Char := Nat.digitChar d

namespace Digits

/-- The number that digits spell, of which the first one is the most significant. -/
def toNat (ds : List Digit) : Nat := Nat.ofDigits 10 (ds.reverse.map Fin.val)

/-- Digits in front count for as many powers of ten as there are digits behind. -/
theorem toNat_append (ds es : List Digit) :
    toNat (ds ++ es) = toNat ds * 10 ^ es.length + toNat es := by
  rw [toNat, List.reverse_append, List.map_append, Nat.ofDigits_append, List.length_map,
    List.length_reverse, Nat.add_comm, Nat.mul_comm]
  rfl

@[simp] theorem toNat_singleton (d : Digit) : toNat [d] = d := Nat.ofDigits_singleton

@[simp] theorem toNat_replicate_zero (n : Nat) : toNat (List.replicate n 0) = 0 := by
  rw [toNat, List.reverse_replicate, List.map_replicate]
  exact Nat.ofDigits_replicate_zero

/-- Digits are below ten. -/
theorem val_lt_of_mem {ds : List Digit} {n : Nat} (h : n ∈ ds.reverse.map Fin.val) : n < 10 := by
  obtain ⟨d, -, rfl⟩ := List.mem_map.1 h
  exact d.isLt

/-- A number has as many digits as it takes. -/
theorem toNat_lt (ds : List Digit) : toNat ds < 10 ^ ds.length := by
  have := Nat.ofDigits_lt_base_pow_length (by decide : 1 < 10) fun _ => @val_lt_of_mem ds _
  rwa [List.length_map, List.length_reverse] at this

/-- Digits are told apart by their values, from the last one on. -/
theorem reverse_map_val_inj {ds es : List Digit} :
    ds.reverse.map Fin.val = es.reverse.map Fin.val ↔ ds = es := by
  rw [List.map_inj_right fun _ _ => Fin.val_inj.1, List.reverse_inj]

/-- As many digits are told apart by the numbers that they spell. -/
theorem eq_of_toNat_eq {ds es : List Digit} (length_eq : ds.length = es.length)
    (h : toNat ds = toNat es) : ds = es :=
  reverse_map_val_inj.1 <| Nat.ofDigits_inj_of_len_eq (by decide) (by simpa using length_eq)
    (fun _ => val_lt_of_mem) (fun _ => val_lt_of_mem) h

/-- The last digit is what is left over if the number is divided by ten. -/
theorem toNat_mod_of_getLast? {ds : List Digit} {d : Digit} (h : ds.getLast? = some d) :
    toNat ds % 10 = d := by
  obtain ⟨front, rfl⟩ := List.getLast?_eq_some_iff.1 h
  rw [toNat_append, toNat_singleton]
  have := d.isLt
  simp only [List.length_singleton]
  omega

/-- The digits of a number, with no zero in front that could be left out. -/
structure Normal (ds : List Digit) : Prop where
  nonempty : ds ≠ []
  eq_zero : ds.head? = some 0 → ds = [0]

/-- Normal digits are those of their number, from the last one on. -/
theorem Normal.digits_toNat {ds : List Digit} (h : Normal ds) (nonzero : ds ≠ [0]) :
    Nat.digits 10 (toNat ds) = ds.reverse.map Fin.val := by
  refine Nat.digits_ofDigits 10 (by decide) _ (fun _ => val_lt_of_mem) fun nonempty last => ?_
  obtain ⟨d, ds, rfl⟩ := List.exists_cons_of_ne_nil h.nonempty
  simp only [List.reverse_cons, List.map_append, List.map_singleton, List.getLast_concat] at last
  obtain rfl : d = 0 := Fin.val_inj.1 last
  exact nonzero (h.eq_zero rfl)

/-- Zero is spelled in one way only. -/
theorem Normal.eq_zero_of_toNat_eq_zero {ds : List Digit} (hds : Normal ds) (h : toNat ds = 0) :
    ds = [0] := by
  by_contra nonzero
  have := hds.digits_toNat nonzero
  rw [h, Nat.digits_zero] at this
  exact hds.nonempty (by simpa using this.symm)

/-- Digits with no zero in front are told apart by the numbers that they spell. -/
theorem Normal.eq_of_toNat_eq {ds es : List Digit} (hds : Normal ds) (hes : Normal es)
    (h : toNat ds = toNat es) : ds = es := by
  by_cases hd : ds = [0]
  · subst hd
    exact (hes.eq_zero_of_toNat_eq_zero h.symm).symm
  by_cases he : es = [0]
  · subst he
    exact hds.eq_zero_of_toNat_eq_zero h
  rw [← reverse_map_val_inj, ← hds.digits_toNat hd, ← hes.digits_toNat he, h]

end Digits

/-! ## Numerals and their values -/

/-- A numeral: digits, and perhaps a point and more digits after it. -/
@[ext] structure Numeral where
  /-- The digits before the point, of which there may be none. -/
  whole : List Digit
  /-- The digits after the point, if there is a point. -/
  fraction : Option (List Digit)
  /-- There is at least one digit. -/
  nonempty : whole ++ fraction.getD [] ≠ []

namespace Numeral

variable (x : Numeral)

/-- The digits after the point. -/
def places : List Digit := x.fraction.getD []

/-- The text of a numeral. -/
def spell : List Char :=
  x.whole.map Digit.char ++ match x.fraction with
    | none => []
    | some ds => '.' :: ds.map Digit.char

/-- The number that a numeral denotes. -/
def value : ℚ := Digits.toNat x.whole + Digits.toNat x.places / 10 ^ x.places.length

/-- The digits of a numeral, filled up with zeros to `d` places. -/
def filled (d : Nat) : List Digit :=
  x.whole ++ x.places ++ List.replicate (d - x.places.length) 0

/-- A numeral with at most `d` places is a natural number in units of which `10 ^ d` make up one. -/
theorem value_mul_pow {d : Nat} (h : x.places.length ≤ d) :
    x.value * 10 ^ d = Digits.toNat (x.filled d) := by
  obtain ⟨k, rfl⟩ := Nat.exists_eq_add_of_le h
  have : (10 : ℚ) ^ x.places.length ≠ 0 := by positivity
  rw [filled, Digits.toNat_append, Digits.toNat_append, Digits.toNat_replicate_zero,
    List.length_replicate, Nat.add_sub_cancel_left, value]
  push_cast
  field_simp
  ring

/-- The digits before the point spell the largest whole number that is not above the value. -/
theorem floor_value : ⌊x.value⌋ = (Digits.toNat x.whole : ℤ) := by
  have := Digits.toNat_lt x.places
  have small : (Digits.toNat x.places : ℚ) / 10 ^ x.places.length < 1 := by
    rw [div_lt_one (by positivity)]
    exact_mod_cast this
  rw [Int.floor_eq_iff, value]
  refine ⟨le_add_of_nonneg_right (by positivity), ?_⟩
  push_cast
  linarith only [small]

/-- A numeral with nothing in it that could be left out: no zero in front, but for a single one, and
    a fraction only if it ends in another digit than zero. -/
structure Canonical : Prop where
  whole : Digits.Normal x.whole
  fraction : ∀ ds, x.fraction = some ds → ∃ d, ds.getLast? = some d ∧ d ≠ 0

variable {x} {y : Numeral}

namespace Canonical

/-- Canonical numerals have no empty fraction. -/
theorem fraction_eq (h : x.Canonical) :
    x.fraction = if x.places = [] then none else some x.places := by
  unfold places
  cases fraction_eq : x.fraction with
  | none => rfl
  | some ds =>
    obtain ⟨d, last, -⟩ := h.fraction ds fraction_eq
    have : ds ≠ [] := by
      rintro rfl
      exact nomatch last
    simp [this]

/-- Canonical places do not end with zero. -/
theorem places_mod_ne_zero (h : x.Canonical) (nonempty : x.places ≠ []) :
    Digits.toNat x.places % 10 ≠ 0 := by
  have fraction_eq := h.fraction_eq
  rw [if_neg nonempty] at fraction_eq
  obtain ⟨d, last, nonzero⟩ := h.fraction _ fraction_eq
  rw [Digits.toNat_mod_of_getLast? last]
  exact fun zero => nonzero (Fin.val_inj.1 zero)

/-- A fraction that does not end in zero has no more places than any other one that is equal. -/
theorem length_places_le (h : y.Canonical)
    (fractions_eq : Digits.toNat x.places * 10 ^ y.places.length =
      Digits.toNat y.places * 10 ^ x.places.length) : y.places.length ≤ x.places.length := by
  by_contra longer
  obtain ⟨k, length_eq⟩ := Nat.exists_eq_add_of_lt (Nat.lt_of_not_le longer)
  have nonempty : y.places ≠ [] := by
    intro empty
    rw [empty] at length_eq
    exact nomatch length_eq
  refine h.places_mod_ne_zero nonempty ?_
  have : Digits.toNat x.places * 10 ^ (k + 1) = Digits.toNat y.places := by
    refine Nat.eq_of_mul_eq_mul_right (Nat.pow_pos (n := x.places.length) (by decide : 0 < 10)) ?_
    rw [← fractions_eq, length_eq, Nat.mul_assoc, ← Nat.pow_add]
    congr 2
    omega
  rw [← this, Nat.pow_succ, ← Nat.mul_assoc]
  exact Nat.mul_mod_left _ 10

/-- Canonical numerals are told apart by their values. -/
theorem eq_of_value_eq (hx : x.Canonical) (hy : y.Canonical) (h : x.value = y.value) : x = y := by
  have wholes_eq : Digits.toNat x.whole = Digits.toNat y.whole := by
    have := x.floor_value
    rw [h, y.floor_value] at this
    exact_mod_cast this.symm
  have fractions_eq : Digits.toNat x.places * 10 ^ y.places.length =
      Digits.toNat y.places * 10 ^ x.places.length := by
    unfold value at h
    rw [wholes_eq, add_right_inj, div_eq_div_iff (by positivity) (by positivity)] at h
    exact_mod_cast h
  have length_eq : x.places.length = y.places.length :=
    le_antisymm (hx.length_places_le fractions_eq.symm) (hy.length_places_le fractions_eq)
  have places_eq : x.places = y.places := by
    refine Digits.eq_of_toNat_eq length_eq ?_
    rw [length_eq] at fractions_eq
    exact Nat.eq_of_mul_eq_mul_right (Nat.pow_pos (by decide)) fractions_eq
  refine Numeral.ext (hx.whole.eq_of_toNat_eq hy.whole wholes_eq) ?_
  rw [hx.fraction_eq, hy.fraction_eq, places_eq]

end Canonical

/-! ## Leaving out zeros -/

/-- The numeral with the given digits, but without the zeros at its end, nor a point with nothing
    after it. -/
def reduced (whole fraction : List Digit) (nonempty : whole ≠ []) : Numeral where
  whole := whole
  fraction := match fraction.rdropWhile (· = 0) with
    | [] => none
    | d :: ds => some (d :: ds)
  nonempty := fun empty => nonempty (List.append_eq_nil_iff.1 empty).1

variable {whole fraction : List Digit} (nonempty : whole ≠ [])

/-- A reduced numeral has no zeros at the end of its fraction, and no fraction at all if there is
    nothing else. -/
theorem fraction_reduced : (reduced whole fraction nonempty).fraction =
    match fraction.rdropWhile (· = 0) with
    | [] => none
    | d :: ds => some (d :: ds) := rfl

/-- A reduced numeral has its places without the zeros at the end. -/
theorem places_reduced :
    (reduced whole fraction nonempty).places = fraction.rdropWhile (· = 0) := by
  rw [places, fraction_reduced]
  cases fraction.rdropWhile (· = 0) <;> rfl

/-- A reduced numeral is canonical. -/
theorem canonical_reduced (normal : Digits.Normal whole) :
    (reduced whole fraction nonempty).Canonical := by
  refine ⟨normal, fun ds fraction_eq => ?_⟩
  -- Where the zeros were left out, the digit before them comes last.
  have last := List.rdropWhile_last_not (fun d : Digit => decide (d = 0)) fraction
  rw [fraction_reduced] at fraction_eq
  cases places_eq : fraction.rdropWhile (· = 0) with
  | nil =>
    rw [places_eq] at fraction_eq
    exact nomatch fraction_eq
  | cons d more =>
    rw [places_eq] at fraction_eq
    cases fraction_eq
    simp only [places_eq] at last
    exact ⟨_, List.getLast?_eq_some_getLast (List.cons_ne_nil d more), by simpa using last⟩

/-- Nothing but zeros is left out. -/
theorem filled_reduced :
    (reduced whole fraction nonempty).filled fraction.length = whole ++ fraction := by
  have split := List.rdropWhile_append_rtakeWhile (p := fun d : Digit => decide (d = 0))
    (l := fraction)
  have zeros : fraction.rtakeWhile (· = 0) =
      List.replicate (fraction.rtakeWhile (· = 0)).length 0 := by
    refine List.eq_replicate_iff.2 ⟨rfl, fun d hd => ?_⟩
    exact of_decide_eq_true (List.mem_rtakeWhile_imp (p := fun d : Digit => decide (d = 0)) hd)
  have length_eq := congrArg List.length split
  rw [List.length_append] at length_eq
  rw [filled, places_reduced, List.append_assoc, ← length_eq, Nat.add_sub_cancel_left, ← zeros,
    split]
  rfl

end Numeral

end PaymentChannel.Amount
