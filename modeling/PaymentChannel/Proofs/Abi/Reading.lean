import PaymentChannel.Proofs.Abi.Datum

/-!
# Reading encodings back

A `Decoder` reads bytes from the front of what is left, and leaves what it has no use for to
whatever comes next. It reads a tuple in the order in which it is written: first the heads, then
what is behind them, where the distances are not needed as nothing lies in between.

* `Reads x bs a`: the decoder `x` reads the bytes `bs`, whatever follows them, and gives `a`;
* `Part.Undoes p d`: as a part of a tuple, `p` reads the datum `d`;
* `Part.reads_join`: parts that read data one by one read the tuple of them.
-/

namespace PaymentChannel.Abi

open Bytes

/-- A computation that takes bytes from the front of what is left, and may fail. -/
abbrev Decoder := StateT Bytes Option

/-- The decoder takes the given bytes, whatever follows them, and gives `a`. -/
def Reads {α : Type} (x : Decoder α) (bs : Bytes) (a : α) : Prop :=
  ∀ rest, x.run (bs ++ rest) = some (a, rest)

namespace Decoder

/-- The next `n` bytes. -/
def take (n : Nat) : Decoder Bytes := fun bs =>
  if n ≤ bs.length then some (bs.take n, bs.drop n) else none

/-- The number in the next word. -/
def word : Decoder Nat := toNat <$> take Slot.size

/-- Data of the given length, behind which there is padding. -/
def padded (length : Nat) : Decoder Bytes := (·.take length) <$> take (paddedLength length)

/-- Data behind their length. -/
def counted : Decoder Bytes := do
  let length ← word
  padded length

/-- A text behind its length in bytes. -/
def text : Decoder String := do
  let bs ← counted
  StateT.lift (String.fromUTF8? bs.toByteArray)

end Decoder

namespace Reads

variable {α β : Type} {x : Decoder α} {f : α → Decoder β} {bs cs : Bytes} {a : α} {b : β}

protected theorem pure (a : α) : Reads (pure a) [] a := fun _ => rfl

protected theorem bind (hx : Reads x bs a) (hf : Reads (f a) cs b) :
    Reads (x >>= f) (bs ++ cs) b := by
  intro rest
  rw [StateT.run_bind, List.append_assoc, hx]
  exact hf rest

protected theorem map (g : α → β) (hx : Reads x bs a) : Reads (g <$> x) bs (g a) := by
  intro rest
  rw [StateT.run_map, hx]
  rfl

/-- What a decoder reads ends where it ends, whatever follows. -/
theorem append_inj {xs ys : Bytes} {a' : α} (h : Reads x bs a) (h' : Reads x cs a')
    (e : bs ++ xs = cs ++ ys) : a = a' ∧ xs = ys := by
  have := h xs
  rw [e, h' ys, Option.some.injEq, Prod.mk.injEq] at this
  exact ⟨this.1.symm, this.2.symm⟩

theorem take {n : Nat} (h : bs.length = n) : Reads (Decoder.take n) bs bs := by
  subst h
  intro rest
  simp [Decoder.take, StateT.run]

theorem word {n : Nat} (h : n < 2 ^ 256) : Reads Decoder.word (word n) n := by
  have := (take (length_word n)).map toNat
  rwa [toNat_word, Nat.mod_eq_of_lt h] at this

theorem padded (bs : Bytes) : Reads (Decoder.padded bs.length) (padded bs) bs := by
  have := (take (length_padded bs)).map (·.take bs.length)
  rwa [Bytes.padded, List.take_left] at this

theorem counted (h : bs.length < 2 ^ 256) :
    Reads Decoder.counted (Bytes.word bs.length ++ Bytes.padded bs) bs :=
  (word h).bind (padded bs)

/-- The bytes of a text are those that strings are made of. -/
theorem fromUTF8?_ofText (s : String) : String.fromUTF8? (ofText s).toByteArray = some s := by
  have h : (ofText s).toByteArray = s.toByteArray := by
    rw [← String.ofList_toList (s := s), String.toByteArray_ofList, String.ofList_toList]
    rfl
  rw [h, String.fromUTF8?, dif_pos s.isValidUTF8]
  rfl

theorem text {s : String} (h : (ofText s).length < 2 ^ 256) :
    Reads Decoder.text (Bytes.word (ofText s).length ++ Bytes.padded (ofText s)) s := by
  have decoded : Reads (StateT.lift (String.fromUTF8? (ofText s).toByteArray)) [] s := by
    rw [fromUTF8?_ofText]
    exact fun _ => rfl
  rw [Decoder.text, ← List.append_nil (Bytes.word _ ++ _)]
  exact (counted h).bind decoded

end Reads

/-! ## Parts of a tuple -/

/-- How a part of a tuple is read: whether it is behind the heads, and its encoding. -/
structure Part where
  isDynamic : Bool
  content : Decoder Datum

namespace Part

/-- Reads what stands among the heads, and says how to read the rest: a part that is behind the
    heads leaves a distance here, which is skipped. -/
def head (p : Part) : Decoder (Decoder Datum) :=
  if p.isDynamic then do
    let _ ← Decoder.take Slot.size
    pure p.content
  else pure <$> p.content

/-- Reads a tuple: all the heads, then what is behind them. -/
def join (ps : List Part) : Decoder (List Datum) := do
  let behind ← ps.mapM head
  behind.mapM id

/-- The part reads the datum. -/
structure Undoes (p : Part) (d : Datum) : Prop where
  isDynamic_eq : p.isDynamic = d.isDynamic
  reads : Reads p.content d.encoded d

/-- After the head of a part, its tail is what is left to read. -/
theorem Undoes.head {p : Part} {d : Datum} (h : p.Undoes d) (distance : Nat) :
    ∃ behind, Reads p.head (d.component.head distance) behind ∧
      Reads behind d.component.tail d := by
  have reads := h.reads
  cases hd : d.isDynamic with
  | true =>
    refine ⟨p.content, ?_, ?_⟩
    · rw [Part.head, h.isDynamic_eq, hd, if_pos rfl, Component.head_of_dynamic hd,
        ← List.append_nil (word distance)]
      exact (Reads.take (length_word distance)).bind (.pure _)
    · rwa [Component.tail_of_dynamic hd]
  | false =>
    refine ⟨pure d, ?_, ?_⟩
    · rw [Part.head, h.isDynamic_eq, hd, if_neg Bool.false_ne_true, Component.head_of_static hd]
      exact reads.map pure
    · rw [Component.tail_of_static hd]
      exact .pure d

/-- The heads are read one after the other, which leaves the tails to be read in the same order. -/
theorem reads_heads {ps : List Part} {ds : List Datum} (h : List.Forall₂ Undoes ps ds)
    (distance : Nat) :
    ∃ behind, Reads (ps.mapM Part.head) (Component.heads distance (Datum.components ds)) behind ∧
      Reads (behind.mapM id) (Component.tails (Datum.components ds)) ds := by
  induction h generalizing distance with
  | nil => exact ⟨[], .pure _, .pure _⟩
  | @cons p d ps ds hp _ ih =>
    obtain ⟨x, head, tail⟩ := hp.head distance
    obtain ⟨xs, heads, tails⟩ := ih (distance + d.component.tail.length)
    refine ⟨x :: xs, ?_, ?_⟩
    · rw [List.mapM_cons, Datum.components, Component.heads,
        ← List.append_nil (Component.heads _ _)]
      exact head.bind (heads.bind (.pure _))
    · rw [List.mapM_cons, Datum.components, Component.tails_cons,
        ← List.append_nil (Component.tails _)]
      exact tail.bind (tails.bind (.pure _))

/-- A tuple is dynamic if one of its parts is. -/
theorem any_isDynamic_eq {ps : List Part} {ds : List Datum} (h : List.Forall₂ Undoes ps ds) :
    ps.any isDynamic = (Datum.components ds).any Component.isDynamic := by
  induction h with
  | nil => rfl
  | cons hp _ ih =>
    rw [Datum.components, List.any_cons, List.any_cons, ih, hp.isDynamic_eq]
    rfl

theorem reads_join {ps : List Part} {ds : List Datum} (h : List.Forall₂ Undoes ps ds) :
    Reads (join ps) (Component.join (Datum.components ds)) ds := by
  obtain ⟨behind, heads, tails⟩ := reads_heads h (Component.headsSize (Datum.components ds))
  exact heads.bind tails

end Part

end PaymentChannel.Abi
