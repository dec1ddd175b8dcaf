import Mathlib
import PaymentChannel.Bytes.Lemmas
import PaymentChannel.Channel.State

/-!
# Reading hexadecimal texts

A byte string is read from a text that consists of its digits, of either case, with a prefix in
front of them or not. Every other text is refused with the reason that is noticed first: that the
number of its bytes is odd, the first byte that is no digit, or the number of bytes that the digits
spell.

* `Hex.Reading`: what comes of the digits, with the errors;
* `Hex.decode_eq_iff`: that it is what the reader finds;
* `hexTexts_read`: addresses, hashes and signatures are read accordingly, and what is shown of them
  is read back.
-/

namespace PaymentChannel

namespace Hex

open Bytes

/-! ## Digits -/

/-- Whether a character is a digit, of either case. -/
def isDigit (c : Char) : Bool :=
  '0' ≤ c && c ≤ '9' || 'a' ≤ c && c ≤ 'f' || 'A' ≤ c && c ≤ 'F'

/-- The first byte of a character in UTF-8. -/
def leadByte (c : Char) : UInt8 := (String.utf8EncodeChar c).headD 0

/-- ASCII is written in one byte. -/
theorem utf8EncodeChar_of_ascii {c : Char} (h : c.toNat < 128) :
    String.utf8EncodeChar c = [UInt8.ofNat c.toNat] := by
  rw [String.utf8EncodeChar]
  exact if_pos (Nat.le_of_lt_succ h)

theorem leadByte_of_ascii {c : Char} (h : c.toNat < 128) : leadByte c = UInt8.ofNat c.toNat := by
  rw [leadByte, utf8EncodeChar_of_ascii h]
  rfl

/-- A character is written in at least one byte. -/
theorem exists_utf8EncodeChar (c : Char) :
    ∃ more, String.utf8EncodeChar c = leadByte c :: more := by
  unfold leadByte
  cases bytes : String.utf8EncodeChar c with
  | nil =>
    have := String.length_utf8EncodeChar c
    rw [bytes] at this
    exact absurd this.symm c.utf8Size_pos.ne'
  | cons b more => exact ⟨more, rfl⟩

/-- The bytes of the digits are ASCII. -/
theorem digitValue_of_ge {b : UInt8} (h : 128 ≤ b.toNat) : digitValue b = none := by
  have lt (n : UInt8) (hn : n.toNat < 128) : ¬b ≤ n := by
    rw [UInt8.le_iff_toNat_le]
    omega
  rw [digitValue, if_neg fun h => lt 57 (by decide) h.2, if_neg fun h => lt 102 (by decide) h.2,
    if_neg fun h => lt 70 (by decide) h.2]

/-- No character beyond ASCII starts with the byte of a digit. -/
theorem digitValue_leadByte_of_wide {c : Char} (h : 128 ≤ c.toNat) :
    digitValue (leadByte c) = none := by
  have one : ¬c.val.toNat ≤ 127 := Nat.not_le.2 h
  refine digitValue_of_ge ?_
  rw [leadByte, String.utf8EncodeChar]
  simp only [if_neg one]
  split_ifs <;> simp only [List.headD_cons, UInt8.toNat_ofNat'] <;> omega

/-- What holds of the first 128 characters holds of all ASCII. -/
theorem ascii_cases {P : Char → Prop} (h : ∀ k : Fin 128, P (Char.ofNat k)) {c : Char}
    (ascii : c.toNat < 128) : P c := by
  have := h ⟨c.toNat, ascii⟩
  rwa [Char.ofNat_toNat] at this

theorem toNat_digit_lt : ∀ n : Fin 16, (digit n).toNat < 128 := by decide

/-- Only ASCII has another lower case here. -/
theorem toLower_of_wide {c : Char} (h : 128 ≤ c.toNat) : c.toLower = c := by
  refine dif_neg fun upper => ?_
  have : c.toNat ≤ 90 := UInt32.le_iff_toNat_le.1 upper.2
  omega

/-- A character starts with the byte of a digit just if it is the digit, in either case. -/
theorem digitValue_leadByte_eq_some_iff (c : Char) (n : Fin 16) :
    digitValue (leadByte c) = some n.1 ↔ c.toLower = digit n := by
  rcases Nat.lt_or_ge c.toNat 128 with ascii | wide
  · rw [leadByte_of_ascii ascii]
    refine ascii_cases (P := fun c => ∀ n : Fin 16,
      digitValue (UInt8.ofNat c.toNat) = some n.1 ↔ c.toLower = digit n) ?_ ascii n
    decide +kernel
  · rw [digitValue_leadByte_of_wide wide, toLower_of_wide wide]
    refine ⟨nofun, ?_⟩
    rintro rfl
    exact absurd (toNat_digit_lt n) (Nat.not_lt.2 wide)

/-- A character is a digit just if it is one of the sixteen, in either case. -/
theorem isDigit_iff (c : Char) : isDigit c = true ↔ ∃ n : Fin 16, c.toLower = digit n := by
  rcases Nat.lt_or_ge c.toNat 128 with ascii | wide
  · refine ascii_cases (P := fun c => isDigit c = true ↔ ∃ n : Fin 16, c.toLower = digit n) ?_ ascii
    decide +kernel
  · have above (d : Char) (hd : d.toNat < 128) : ¬c ≤ d := fun h => by
      have : c.toNat ≤ d.toNat := UInt32.le_iff_toNat_le.1 h
      omega
    have foreign : isDigit c = false := by
      simp [isDigit, above '9' (by decide), above 'f' (by decide), above 'F' (by decide)]
    rw [foreign, toLower_of_wide wide]
    refine ⟨nofun, ?_⟩
    rintro ⟨n, rfl⟩
    exact absurd (toNat_digit_lt n) (Nat.not_lt.2 wide)

/-- A digit stands for a number below 16. -/
theorem digitValue_lt {b : UInt8} {n : Nat} (h : digitValue b = some n) : n < 16 := by
  unfold digitValue at h
  simp only [UInt8.le_iff_toNat_le, UInt8.reduceToNat] at h
  split_ifs at h <;> cases h <;> omega

/-- The first byte of a character is that of a digit just if the character is one. -/
theorem isSome_digitValue_leadByte (c : Char) :
    (digitValue (leadByte c)).isSome = isDigit c := by
  rw [Bool.eq_iff_iff, isDigit_iff, Option.isSome_iff_exists]
  constructor
  · rintro ⟨n, h⟩
    exact ⟨⟨n, digitValue_lt h⟩, (digitValue_leadByte_eq_some_iff c ⟨n, digitValue_lt h⟩).1 h⟩
  · rintro ⟨n, h⟩
    exact ⟨n, (digitValue_leadByte_eq_some_iff c n).2 h⟩

theorem utf8EncodeChar_of_isDigit {c : Char} (h : isDigit c = true) :
    String.utf8EncodeChar c = [leadByte c] := by
  rcases Nat.lt_or_ge c.toNat 128 with ascii | wide
  · rw [leadByte_of_ascii ascii, utf8EncodeChar_of_ascii ascii]
  · rw [← isSome_digitValue_leadByte, digitValue_leadByte_of_wide wide] at h
    exact nomatch h

/-- Digits are one byte each. -/
theorem ofChars_of_isDigit {cs : List Char} (h : ∀ c ∈ cs, isDigit c = true) :
    ofChars cs = cs.map leadByte := by
  induction cs with
  | nil => rfl
  | cons c cs ih =>
    rw [ofChars, List.flatMap_cons, utf8EncodeChar_of_isDigit (h c List.mem_cons_self), ← ofChars,
      ih fun d hd => h d (List.mem_cons_of_mem _ hd)]
    rfl

/-! ## Digits of bytes -/

/-- The numbers that the digits of bytes stand for, two for each byte. -/
def nibbles (bs : Bytes) : List (Fin 16) :=
  bs.flatMap fun b => [Fin.ofNat 16 (b.toNat / 16), Fin.ofNat 16 b.toNat]

/-- Bytes are written as the digits of their numbers, in lower case. -/
theorem encode_eq (bs : Bytes) : encode bs = (nibbles bs).map fun n : Fin 16 => digit n := by
  rw [encode, nibbles, List.map_flatMap]
  congr
  funext b
  have := b.toNat_lt
  have high : b.toNat / 16 % 16 = b.toNat / 16 := Nat.mod_eq_of_lt (by omega)
  simp [byteDigits, Fin.ofNat, high]

/-- Every byte has two digits. -/
theorem length_encode (bs : Bytes) : (encode bs).length = 2 * bs.length := by
  induction bs with
  | nil => rfl
  | cons b bs ih =>
    rw [encode, List.flatMap_cons, ← encode, List.length_append, ih, byteDigits]
    simp
    omega

/-- Two numbers below 16 are the digits of a byte. -/
theorem exists_byte (high low : Fin 16) :
    ∃ b : UInt8, b.toNat = 16 * high.1 + low ∧ Fin.ofNat 16 (b.toNat / 16) = high ∧
      Fin.ofNat 16 b.toNat = low := by
  have toNat : (UInt8.ofNat (16 * high.1 + low)).toNat = 16 * high.1 + low := by
    rw [UInt8.toNat_ofNat']
    omega
  refine ⟨UInt8.ofNat (16 * high.1 + low), toNat, ?_, ?_⟩ <;> rw [toNat] <;> ext <;>
    simp only [Fin.ofNat] <;> omega

/-- Any even number of digits are those of some bytes. -/
theorem exists_encode : ∀ {cs : List Char}, (∀ c ∈ cs, isDigit c = true) → cs.length % 2 = 0 →
    ∃ bs, cs.map Char.toLower = encode bs
  | [], _, _ => ⟨[], rfl⟩
  | [_], _, even => nomatch even
  | x :: y :: cs, h, even => by
    obtain ⟨high, hx⟩ := (isDigit_iff x).1 (h x List.mem_cons_self)
    obtain ⟨low, hy⟩ := (isDigit_iff y).1 (h y (List.mem_cons_of_mem _ List.mem_cons_self))
    obtain ⟨bs, hbs⟩ := exists_encode
      (fun c hc => h c (List.mem_cons_of_mem _ (List.mem_cons_of_mem _ hc)))
      (show cs.length % 2 = 0 by simp only [List.length_cons] at even; omega)
    obtain ⟨b, -, high_eq, low_eq⟩ := exists_byte high low
    refine ⟨b :: bs, ?_⟩
    rw [encode_eq] at hbs ⊢
    rw [nibbles, List.flatMap_cons, high_eq, low_eq, List.map_append, ← nibbles, ← hbs]
    simp [hx, hy]

/-- What spells bytes is made up of digits. -/
theorem isDigit_of_map_toLower {cs : List Char} {bs : Bytes} (h : cs.map Char.toLower = encode bs) :
    ∀ c ∈ cs, isDigit c = true := by
  intro c hc
  have : c.toLower ∈ encode bs := h ▸ List.mem_map_of_mem hc
  rw [encode_eq, List.mem_map] at this
  obtain ⟨n, -, hn⟩ := this
  exact (isDigit_iff c).2 ⟨n, hn.symm⟩

/-! ## Reading digits -/

/-- The digits of bytes are read as these bytes, wherever they begin. -/
theorem decodePairs_of_digits {ds bs : Bytes} (position : Nat)
    (h : ds.map digitValue = (nibbles bs).map fun n : Fin 16 => some n.1) :
    decodePairs position ds = .ok bs := by
  induction bs generalizing position ds with
  | nil =>
    obtain rfl := List.map_eq_nil_iff.1 h
    rfl
  | cons b bs ih =>
    rw [nibbles, List.flatMap_cons, List.map_append, ← nibbles] at h
    obtain ⟨x, ds, rfl, hx, h⟩ := List.map_eq_cons_iff.1 h
    obtain ⟨y, ds, rfl, hy, h⟩ := List.map_eq_cons_iff.1 h
    have := b.toNat_lt
    have byte : UInt8.ofNat (16 * (b.toNat / 16 % 16) + b.toNat % 16) = b := by
      rw [← UInt8.toNat_inj, UInt8.toNat_ofNat']
      omega
    simp only [decodePairs, hx, hy, Fin.ofNat, ih (position + 2) h, byte]
    rfl

/-- The first byte that is no digit is reported, with its position. -/
theorem decodePairs_of_foreign {b : UInt8} (foreign : digitValue b = none) (after : Bytes) :
    ∀ (before : Bytes) (position : Nat), (∀ d ∈ before, (digitValue d).isSome) →
      (before ++ b :: after).length % 2 = 0 → decodePairs position (before ++ b :: after) =
        .error (.invalidCharacter b (position + before.length))
  | [], position, _, even => by
    cases after with
    | nil => exact nomatch even
    | cons y after =>
      simp only [List.nil_append, decodePairs, foreign]
      rfl
  | [x], position, known, _ => by
    obtain ⟨n, hn⟩ := Option.isSome_iff_exists.1 (known x List.mem_cons_self)
    simp only [List.cons_append, List.nil_append, decodePairs, hn, foreign]
    rfl
  | x :: y :: before, position, known, even => by
    obtain ⟨n, hn⟩ := Option.isSome_iff_exists.1 (known x List.mem_cons_self)
    obtain ⟨m, hm⟩ := Option.isSome_iff_exists.1
      (known y (List.mem_cons_of_mem _ List.mem_cons_self))
    have rest := decodePairs_of_foreign foreign after before (position + 2)
      (fun d hd => known d (List.mem_cons_of_mem _ (List.mem_cons_of_mem _ hd)))
      (by simp only [List.cons_append, List.length_cons] at even; omega)
    rw [List.cons_append, List.cons_append, decodePairs, hn, hm]
    simp only [rest, List.length_cons]
    rw [show position + 2 + before.length = position + (before.length + 1 + 1) by omega]
    rfl

/-- What comes of the digits of a text, behind the prefix. -/
inductive Reading (cs : List Char) : Except Error Bytes → Prop
  /-- They are the digits of bytes, of either case. -/
  | digits {bs : Bytes} (digits : cs.map Char.toLower = encode bs) : Reading cs (.ok bs)
  /-- The number of bytes is odd, whatever they are. -/
  | oddLength (odd : (ofChars cs).length % 2 = 1) : Reading cs (.error .oddLength)
  /-- The first byte that is no digit is the first one of a character that is none. -/
  | foreign {before after : List Char} {c : Char} (cs_eq : cs = before ++ c :: after)
      (known : ∀ d ∈ before, isDigit d = true) (foreign : isDigit c = false)
      (even : (ofChars cs).length % 2 = 0) :
      Reading cs (.error (.invalidCharacter (leadByte c) before.length))

/-- What spells bytes is twice as long in UTF-8, since digits are one byte each. -/
theorem length_ofChars_of_encode {cs : List Char} {bs : Bytes}
    (h : cs.map Char.toLower = encode bs) : (ofChars cs).length = 2 * bs.length := by
  rw [ofChars_of_isDigit (isDigit_of_map_toLower h), List.length_map, ← length_encode, ← h,
    List.length_map]

/-- What digits stand for is what their first bytes are read as. -/
theorem map_digitValue_leadByte {cs : List Char} {ns : List (Fin 16)}
    (h : cs.map Char.toLower = ns.map fun n : Fin 16 => digit n) :
    (cs.map leadByte).map digitValue = ns.map fun n : Fin 16 => some n.1 := by
  induction cs generalizing ns with
  | nil =>
    obtain rfl := List.map_eq_nil_iff.1 h.symm
    rfl
  | cons c cs ih =>
    obtain ⟨n, ns, rfl, hn, h⟩ := List.map_eq_cons_iff.1 h.symm
    rw [List.map_cons, List.map_cons, List.map_cons, ih h.symm,
      (digitValue_leadByte_eq_some_iff c n).2 hn.symm]

/-- The reader finds what the digits come to: bytes, an odd number, or a byte that is no digit. -/
theorem decode_of_reading {cs : List Char} {result : Except Error Bytes} (h : Reading cs result) :
    decode (ofChars cs) = result := by
  cases h with
  | @digits bs digits =>
    have even : ¬(ofChars cs).length % 2 = 1 := by
      rw [length_ofChars_of_encode digits]
      omega
    rw [decode, if_neg even, ofChars_of_isDigit (isDigit_of_map_toLower digits)]
    rw [encode_eq] at digits
    exact decodePairs_of_digits 0 (map_digitValue_leadByte digits)
  | oddLength odd => exact if_pos odd
  | @foreign before after c cs_eq known foreign even =>
    -- The characters before it are digits, of one byte each, so that its first byte is at its
    -- place.
    obtain ⟨more, lead⟩ := exists_utf8EncodeChar c
    have bytes : ofChars cs = before.map leadByte ++ leadByte c :: (more ++ ofChars after) := by
      rw [cs_eq, ofChars, List.flatMap_append, List.flatMap_cons, lead, ← ofChars, ← ofChars,
        ofChars_of_isDigit known, List.cons_append]
    have none_eq : digitValue (leadByte c) = none := by
      rw [← Option.not_isSome_iff_eq_none, isSome_digitValue_leadByte, foreign]
      exact Bool.false_ne_true
    have some_eq : ∀ d ∈ before.map leadByte, (digitValue d).isSome := by
      intro d hd
      obtain ⟨x, hx, rfl⟩ := List.mem_map.1 hd
      rw [isSome_digitValue_leadByte]
      exact known x hx
    rw [decode, if_neg (by omega), bytes, decodePairs_of_foreign none_eq _ _ 0 some_eq
      (by rw [← bytes]; exact even), List.length_map, Nat.zero_add]

/-- Any text comes to bytes or to one of the errors. -/
theorem exists_reading (cs : List Char) : ∃ result, Reading cs result := by
  rcases Nat.mod_two_eq_zero_or_one (ofChars cs).length with even | odd
  · by_cases known : ∀ c ∈ cs, isDigit c = true
    · rw [ofChars_of_isDigit known, List.length_map] at even
      obtain ⟨bs, digits⟩ := exists_encode known even
      exact ⟨_, .digits digits⟩
    · -- The digits in front end at the first character that is none.
      have cs_eq := List.takeWhile_append_dropWhile (p := isDigit) (l := cs)
      cases rest : cs.dropWhile isDigit with
      | nil =>
        rw [rest, List.append_nil] at cs_eq
        exact absurd (fun c hc => List.mem_takeWhile_imp (cs_eq ▸ hc)) known
      | cons c after =>
        have first := List.head?_dropWhile_not isDigit cs
        rw [rest] at cs_eq first
        exact ⟨_, .foreign cs_eq.symm (fun d => List.mem_takeWhile_imp) (by simpa using first) even⟩
  · exact ⟨_, .oddLength odd⟩

/-- The reader finds what comes of the digits. -/
theorem decode_eq_iff {cs : List Char} {result : Except Error Bytes} :
    decode (ofChars cs) = result ↔ Reading cs result := by
  refine ⟨?_, decode_of_reading⟩
  rintro rfl
  obtain ⟨result, h⟩ := exists_reading cs
  rwa [decode_of_reading h]

/-! ## Prefixes -/

/-- The text is made up of the digits of bytes, of either case, behind one of the prefixes or
    none. -/
def Spells (prefixes : List (List Char)) (text : String) (bs : Bytes) : Prop :=
  ∃ front ∈ [] :: prefixes, ∃ cs, text.toList = front ++ cs ∧ cs.map Char.toLower = encode bs

/-- The prefix of signatures. -/
def lowerPrefixes : List (List Char) := [['0', 'x']]

/-- The prefixes of addresses and hashes. -/
def eitherPrefixes : List (List Char) := [['0', 'x'], ['0', 'X']]

/-- The text is made up of so many digits, behind one of the prefixes or none. -/
def HasDigits (prefixes : List (List Char)) (text : String) (count : Nat) : Prop :=
  ∃ front ∈ [] :: prefixes, ∃ cs, text.toList = front ++ cs ∧ cs.length = count ∧
    ∀ c ∈ cs, isDigit c = true

/-- A way of leaving out a prefix. A text that is all digits has none. -/
structure Strips (strip : List Char → List Char) (prefixes : List (List Char)) : Prop where
  bare : ∀ cs, (∀ c ∈ cs, isDigit c = true) → strip cs = cs
  behind : ∀ front ∈ prefixes, ∀ cs, strip (front ++ cs) = cs
  exists_front : ∀ cs, ∃ front ∈ [] :: prefixes, cs = front ++ strip cs

/-- The prefix of addresses and hashes is left out, in either case of the letter. -/
theorem strips_either : Strips stripEither eitherPrefixes where
  bare cs h := by
    unfold stripEither
    split
    · exact absurd (h 'x' (by simp)) (by decide)
    · exact absurd (h 'X' (by simp)) (by decide)
    · rfl
  behind front h cs := by
    rcases List.mem_pair.1 h with rfl | rfl <;> rfl
  exists_front cs := by
    unfold stripEither
    split
    · exact ⟨['0', 'x'], by simp [eitherPrefixes], rfl⟩
    · exact ⟨['0', 'X'], by simp [eitherPrefixes], rfl⟩
    · exact ⟨[], List.mem_cons_self, rfl⟩

/-- The prefix of signatures is left out in lower case only. -/
theorem strips_lower : Strips stripLower lowerPrefixes where
  bare cs h := by
    unfold stripLower
    split
    · exact absurd (h 'x' (by simp)) (by decide)
    · rfl
  behind front h cs := by
    obtain rfl := List.mem_singleton.1 h
    rfl
  exists_front cs := by
    unfold stripLower
    split
    · exact ⟨['0', 'x'], by simp [lowerPrefixes], rfl⟩
    · exact ⟨[], List.mem_cons_self, rfl⟩

section Strips

variable {strip : List Char → List Char} {prefixes : List (List Char)} {text : String}

/-- Digits are what is left over, whether there is a prefix or not. -/
theorem Strips.strip_append (h : Strips strip prefixes) {front cs : List Char}
    (hfront : front ∈ [] :: prefixes) (hcs : ∀ c ∈ cs, isDigit c = true) :
    strip (front ++ cs) = cs := by
  rcases List.mem_cons.1 hfront with rfl | hfront
  · exact h.bare cs hcs
  · exact h.behind front hfront cs

/-- A text spells bytes just if it is made up of their digits once the prefix is left out. -/
theorem Strips.spells_iff (h : Strips strip prefixes) {bs : Bytes} :
    Spells prefixes text bs ↔ (strip text.toList).map Char.toLower = encode bs := by
  constructor
  · rintro ⟨front, hfront, cs, text_eq, digits⟩
    rwa [text_eq, h.strip_append hfront (isDigit_of_map_toLower digits)]
  · intro digits
    obtain ⟨front, hfront, text_eq⟩ := h.exists_front text.toList
    exact ⟨front, hfront, _, text_eq, digits⟩

/-- The digits of a text are what is left over of it without the prefix. -/
theorem Strips.hasDigits_iff (h : Strips strip prefixes) {count : Nat} :
    HasDigits prefixes text count ↔
      (strip text.toList).length = count ∧ ∀ c ∈ strip text.toList, isDigit c = true := by
  constructor
  · rintro ⟨front, hfront, cs, text_eq, length_eq, digits⟩
    rw [text_eq, h.strip_append hfront digits]
    exact ⟨length_eq, digits⟩
  · rintro ⟨length_eq, digits⟩
    obtain ⟨front, hfront, text_eq⟩ := h.exists_front text.toList
    exact ⟨front, hfront, _, text_eq, length_eq, digits⟩

end Strips

/-! ## Written digits -/

/-- Bytes are written in lower case. -/
theorem map_toLower_encode (bs : Bytes) : (encode bs).map Char.toLower = encode bs := by
  have lower : ∀ n : Fin 16, (digit n).toLower = digit n := by decide
  rw [encode_eq, List.map_map]
  exact List.map_congr_left fun n _ => lower n

/-- Byte strings are told apart by their digits. -/
theorem encode_inj {bs bs' : Bytes} : encode bs = encode bs' ↔ bs = bs' := by
  refine ⟨fun h => ?_, congrArg _⟩
  have first := decode_of_reading (.digits (map_toLower_encode bs))
  rw [h, decode_of_reading (.digits (map_toLower_encode bs'))] at first
  exact (Except.ok.inj first).symm

/-- A written byte string spells itself, behind a prefix that is left out when it is read. -/
theorem spells_render {prefixes : List (List Char)} (h : ['0', 'x'] ∈ prefixes) (bs : Bytes) :
    Spells prefixes (render bs) bs :=
  ⟨['0', 'x'], List.mem_cons_of_mem _ h, encode bs, by rw [render, String.toList_ofList]; rfl,
    map_toLower_encode bs⟩

/-- The digits are at fault, and not their number. -/
def Error.isInvalid : Error → Bool
  | wrongLength .. => false
  | _ => true

/-- Digits that spell no bytes are of an odd number of bytes, or not all digits. -/
theorem exists_error_iff (cs : List Char) :
    (∃ e, Reading cs (.error e)) ↔ (ofChars cs).length % 2 = 1 ∨ ∃ c ∈ cs, isDigit c = false := by
  constructor
  · rintro ⟨e, h⟩
    cases h with
    | oddLength odd => exact .inl odd
    | @foreign before after c cs_eq known foreign even =>
      exact .inr ⟨c, by simp [cs_eq], foreign⟩
  · intro h
    obtain ⟨result, reading⟩ := exists_reading cs
    cases reading with
    | digits digits =>
      rcases h with odd | ⟨c, hc, foreign⟩
      · rw [length_ofChars_of_encode digits] at odd
        omega
      · rw [isDigit_of_map_toLower digits c hc] at foreign
        exact nomatch foreign
    | oddLength odd => exact ⟨_, .oddLength odd⟩
    | foreign cs_eq known foreign even => exact ⟨_, .foreign cs_eq known foreign even⟩

/-- Whatever is wrong with digits counts as invalid digits, and not as a wrong length. -/
theorem Reading.isInvalid {cs : List Char} {e : Error} (h : Reading cs (.error e)) :
    e.isInvalid = true := by
  cases h <;> rfl

end Hex

/-! ## Addresses, hashes and signatures -/

open Hex Bytes

namespace FixedBytes

variable {n : Nat} {text : String}

/-- An address or a hash is decoded first, and its length is looked at afterwards. -/
theorem parse_eq (text : String) : (parse text : Except Hex.Error (FixedBytes n)) =
    match decode (ofChars (stripEither text.toList)) with
    | .ok bs => if bs.length = n then .ok (ofBytes bs) else .error (.wrongLength n bs.length)
    | .error e => .error e := by
  unfold parse
  cases decode (ofChars (stripEither text.toList)) <;> rfl

/-- An address or a hash is read from its digits, of either case, behind a prefix or none. -/
theorem parse_eq_ok_iff {x : FixedBytes n} :
    parse text = .ok x ↔ Spells eitherPrefixes text x.toBytes := by
  rw [strips_either.spells_iff, parse_eq]
  constructor
  · intro h
    split at h
    next bs decoded =>
      split at h
      next length_eq =>
        cases h
        rw [toBytes_ofBytes length_eq]
        cases decode_eq_iff.1 decoded with
        | digits digits => exact digits
      next => exact nomatch h
    next => exact nomatch h
  · intro digits
    rw [decode_of_reading (.digits digits)]
    simp

/-- Reading fails because the digits do, or because they spell a different number of bytes. -/
theorem parse_eq_error_iff {e : Hex.Error} :
    (parse text : Except Hex.Error (FixedBytes n)) = .error e ↔
      Reading (stripEither text.toList) (.error e) ∨
        ∃ bs, Reading (stripEither text.toList) (.ok bs) ∧ bs.length ≠ n ∧
          e = .wrongLength n bs.length := by
  rw [parse_eq, ← decode_eq_iff]
  constructor
  · intro h
    split at h
    next bs decoded =>
      split at h
      next => exact nomatch h
      next length_ne =>
        cases h
        exact .inr ⟨bs, decode_eq_iff.1 decoded, length_ne, rfl⟩
    next e' decoded =>
      cases h
      exact .inl decoded
  · rintro (decoded | ⟨bs, reading, length_ne, rfl⟩)
    · rw [decoded]
    · rw [decode_of_reading reading]
      exact if_neg length_ne

/-- Something is read just if there are as many digits as it takes. -/
theorem exists_parse_iff :
    (∃ x : FixedBytes n, parse text = .ok x) ↔ HasDigits eitherPrefixes text (2 * n) := by
  simp only [parse_eq_ok_iff, strips_either.spells_iff, strips_either.hasDigits_iff]
  constructor
  · rintro ⟨x, digits⟩
    refine ⟨?_, isDigit_of_map_toLower digits⟩
    rw [← List.length_map, digits, length_encode, length_toBytes]
  · rintro ⟨length_eq, known⟩
    obtain ⟨bs, digits⟩ := exists_encode known (by omega)
    have := congrArg List.length digits
    rw [List.length_map, length_encode, length_eq] at this
    refine ⟨ofBytes bs, ?_⟩
    rw [toBytes_ofBytes (by omega), digits]

/-- A wrong length is reported of whole bytes of digits only, with the number of these bytes. -/
theorem parse_eq_wrongLength_iff {expected actual : Nat} :
    (parse text : Except Hex.Error (FixedBytes n)) = .error (.wrongLength expected actual) ↔
      expected = n ∧ actual ≠ n ∧ (stripEither text.toList).length = 2 * actual ∧
        ∀ c ∈ stripEither text.toList, isDigit c = true := by
  rw [parse_eq_error_iff]
  constructor
  · rintro (invalid | ⟨bs, reading, length_ne, e_eq⟩)
    · exact nomatch invalid.isInvalid
    · cases e_eq
      cases reading with
      | digits digits =>
        refine ⟨rfl, length_ne, ?_, isDigit_of_map_toLower digits⟩
        rw [← List.length_map, digits, length_encode]
  · rintro ⟨rfl, actual_ne, length_eq, known⟩
    obtain ⟨bs, digits⟩ := exists_encode known (by omega)
    have := congrArg List.length digits
    rw [List.length_map, length_encode, length_eq] at this
    obtain rfl : actual = bs.length := by omega
    exact .inr ⟨bs, .digits digits, actual_ne, rfl⟩

/-- Invalid digits are reported of an odd number of bytes and of characters that are no digits. -/
theorem exists_invalid_iff :
    (∃ e, e.isInvalid = true ∧ (parse text : Except Hex.Error (FixedBytes n)) = .error e) ↔
      (ofChars (stripEither text.toList)).length % 2 = 1 ∨
        ∃ c ∈ stripEither text.toList, isDigit c = false := by
  rw [← exists_error_iff]
  constructor
  · rintro ⟨e, invalid, h⟩
    rcases parse_eq_error_iff.1 h with reading | ⟨bs, -, -, rfl⟩
    · exact ⟨e, reading⟩
    · exact nomatch invalid
  · rintro ⟨e, reading⟩
    exact ⟨e, reading.isInvalid, parse_eq_error_iff.2 (.inl reading)⟩

end FixedBytes

namespace Signature

variable {text : String}

/-- A signature may have any length. -/
theorem parse_eq (text : String) :
    parse text = mk <$> decode (ofChars (stripLower text.toList)) := rfl

/-- A signature is read from its digits, of either case, behind a prefix or none. -/
theorem parse_eq_ok_iff {s : Signature} :
    parse text = .ok s ↔ Spells lowerPrefixes text s.bytes := by
  rw [strips_lower.spells_iff, parse_eq]
  constructor
  · intro h
    cases decoded : decode (ofChars (stripLower text.toList)) with
    | error e =>
      rw [decoded] at h
      exact nomatch h
    | ok bs =>
      rw [decoded] at h
      cases h
      cases decode_eq_iff.1 decoded with
      | digits digits => exact digits
  · intro digits
    rw [decode_of_reading (.digits digits)]
    rfl

/-- Reading a signature fails only because the digits do. -/
theorem parse_eq_error_iff {e : Hex.Error} :
    parse text = .error e ↔ Reading (stripLower text.toList) (.error e) := by
  rw [parse_eq, ← decode_eq_iff]
  cases decode (ofChars (stripLower text.toList)) with
  | error e' =>
    constructor <;> intro h <;> cases h <;> rfl
  | ok bs => exact ⟨nofun, nofun⟩

/-- A signature is read just if it is made up of an even number of digits. -/
theorem exists_parse_iff :
    (∃ s, parse text = .ok s) ↔ ∃ count, HasDigits lowerPrefixes text (2 * count) := by
  simp only [parse_eq_ok_iff, strips_lower.spells_iff, strips_lower.hasDigits_iff]
  constructor
  · rintro ⟨s, digits⟩
    refine ⟨s.bytes.length, ?_, isDigit_of_map_toLower digits⟩
    rw [← List.length_map, digits, length_encode]
  · rintro ⟨count, length_eq, known⟩
    obtain ⟨bs, digits⟩ := exists_encode known (by omega)
    exact ⟨⟨bs⟩, digits⟩

end Signature

/-- Addresses and hashes are read from twice as many digits as they have bytes, of either case,
    behind `0x`, `0X` or nothing, and these are the digits that are shown of them. Two texts are
    read as the same just if their digits differ in case only, and what is shown is read back.
    Digits of an odd number of bytes and characters that are none are invalid, whatever their
    number. Any other number of digits is refused with the number of bytes that they spell.
    Signatures are read from any even number of digits, behind `0x` or nothing. -/
theorem hexTexts_read :
    (∀ n text (x : FixedBytes n),
      FixedBytes.parse text = .ok x ↔ Spells eitherPrefixes text x.toBytes) ∧
    (∀ n text, (∃ x : FixedBytes n, FixedBytes.parse text = .ok x) ↔
      HasDigits eitherPrefixes text (2 * n)) ∧
    (∀ n text text' (x x' : FixedBytes n), FixedBytes.parse text = .ok x →
      FixedBytes.parse text' = .ok x' → (x = x' ↔
        (stripEither text.toList).map Char.toLower =
          (stripEither text'.toList).map Char.toLower)) ∧
    (∀ n (x : FixedBytes n), FixedBytes.parse x.toHex = .ok x) ∧
    (∀ n text,
      ((∃ e, e.isInvalid = true ∧ (FixedBytes.parse text : Except _ (FixedBytes n)) = .error e) ↔
        (ofChars (stripEither text.toList)).length % 2 = 1 ∨
          ∃ c ∈ stripEither text.toList, isDigit c = false) ∧
      (∀ e, e.isInvalid = true → ((FixedBytes.parse text : Except _ (FixedBytes n)) = .error e ↔
        Reading (stripEither text.toList) (.error e))) ∧
      ∀ expected actual, (FixedBytes.parse text : Except _ (FixedBytes n)) =
          .error (.wrongLength expected actual) ↔
        expected = n ∧ actual ≠ n ∧ (stripEither text.toList).length = 2 * actual ∧
          ∀ c ∈ stripEither text.toList, isDigit c = true) ∧
    (∀ text s, Signature.parse text = .ok s ↔ Spells lowerPrefixes text s.bytes) ∧
    (∀ text, (∃ s, Signature.parse text = .ok s) ↔
      ∃ count, HasDigits lowerPrefixes text (2 * count)) ∧
    (∀ text e, Signature.parse text = .error e ↔ Reading (stripLower text.toList) (.error e)) ∧
    ∀ s : Signature, Signature.parse s.toHex = .ok s := by
  refine ⟨fun n text x => FixedBytes.parse_eq_ok_iff, fun n text => FixedBytes.exists_parse_iff,
    fun n text text' x x' h h' => ?_,
    fun n x => FixedBytes.parse_eq_ok_iff.2 (spells_render (by simp [eitherPrefixes]) x.toBytes),
    fun n text => ⟨FixedBytes.exists_invalid_iff, fun e invalid => ?_,
      fun expected actual => FixedBytes.parse_eq_wrongLength_iff⟩,
    fun text s => Signature.parse_eq_ok_iff, fun text => Signature.exists_parse_iff,
    fun text e => Signature.parse_eq_error_iff,
    fun s => Signature.parse_eq_ok_iff.2 (spells_render (by simp [lowerPrefixes]) s.bytes)⟩
  · -- In lower case, both texts are the digits of their bytes, which tell these apart.
    rw [FixedBytes.parse_eq_ok_iff, strips_either.spells_iff] at h h'
    rw [h, h', encode_inj, FixedBytes.toBytes_inj]
  · -- A wrong length is the only error that does not come of the digits.
    rw [FixedBytes.parse_eq_error_iff]
    refine or_iff_left ?_
    rintro ⟨bs, -, -, rfl⟩
    exact nomatch invalid

/-- Two texts of the same bytes, which differ in the prefix and in case, and a single digit. -/
theorem hexTexts_read_alike :
    let x : FixedBytes 2 := ⟨0xab0c⟩
    FixedBytes.parse "0XAb0C" = .ok x ∧ FixedBytes.parse "aB0c" = .ok x ∧
      ((stripEither "0XAb0C".toList).map Char.toLower =
        (stripEither "aB0c".toList).map Char.toLower) ∧
      Hex.Error.oddLength.isInvalid = true ∧
      Reading (stripEither "0x1".toList) (.error .oddLength) := by
  obtain ⟨-, -, same, -, errors, -⟩ := hexTexts_read
  have upper : FixedBytes.parse "0XAb0C" = .ok (⟨0xab0c⟩ : FixedBytes 2) := by rfl
  have lower : FixedBytes.parse "aB0c" = .ok (⟨0xab0c⟩ : FixedBytes 2) := by rfl
  have odd : (FixedBytes.parse "0x1" : Except _ (FixedBytes 2)) = .error .oddLength := by rfl
  exact ⟨upper, lower, (same 2 _ _ _ _ upper lower).1 rfl, rfl, ((errors 2 _).2.1 _ rfl).1 odd⟩

end PaymentChannel
