import PaymentChannel.Proofs.Abi.Reading

/-!
# Contract types

A `ContractType` says what a datum looks like, down to the lengths of fixed bytes and the members of
tuples, but not how long texts, byte strings and sequences are. It determines how encodings of its
data are read (`ContractType.part`).

* `HasType.encodes`: what is written for a datum of some type is its encoding;
* `HasType.undoes`: reading by the type gives the datum back, whatever follows its encoding;
* `encoding_append_inj`: so bytes start with the encoding of at most one datum of a type, both for
  arguments and for data on their own.
-/

namespace PaymentChannel.Abi

open Bytes

/-- A type that contracts know. -/
inductive ContractType where
  | bool
  | uint (w : Width)
  | int (w : Width)
  /-- Bytes of the given length. -/
  | fixed (length : Nat)
  | text
  | bytes
  | tuple (parts : List ContractType)
  | seq (element : ContractType)

/-- A datum of a type. Lengths are numbers of 64 bits: no memory holds more. -/
inductive HasType : Datum → ContractType → Prop
  | bool (b : Bool) : HasType (.bool b) .bool
  | uint (w : Width) (x : BitVec w.bits) : HasType (.uint w x) (.uint w)
  | int (w : Width) (x : BitVec w.bits) : HasType (.int w x) (.int w)
  | fixed (bs : Bytes) : HasType (.fixed bs) (.fixed bs.length)
  | text {s : String} : (ofText s).length < 2 ^ 64 → HasType (.text s) .text
  | bytes {bs : Bytes} : bs.length < 2 ^ 64 → HasType (.bytes bs) .bytes
  | tuple {parts : List Datum} {types : List ContractType} :
    List.Forall₂ HasType parts types → HasType (.tuple parts) (.tuple types)
  | seq {elements : List Datum} {t : ContractType} :
    elements.length < 2 ^ 64 → (∀ d ∈ elements, HasType d t) → HasType (.seq elements) (.seq t)

namespace Width

/-- Extending the sign of a machine integer to a slot loses nothing. -/
theorem setWidth_signExtend (w : Width) (x : BitVec w.bits) :
    (x.signExtend 256).setWidth w.bits = x := by
  have := w.bits_le
  ext i hi
  have : i < 256 := by omega
  simp [BitVec.getElem_signExtend, this, hi]

end Width

namespace ContractType

mutual

/-- How data of a type are read as parts of a tuple. -/
def part : ContractType → Part
  | .bool => ⟨false, (fun n => .bool (n != 0)) <$> Decoder.word⟩
  | .uint w => ⟨false, (fun n => .uint w (BitVec.ofNat w.bits n)) <$> Decoder.word⟩
  | .int w => ⟨false, (fun n => .int w (BitVec.ofNat w.bits n)) <$> Decoder.word⟩
  | .fixed length => ⟨false, .fixed <$> Decoder.padded length⟩
  | .text => ⟨true, .text <$> Decoder.text⟩
  | .bytes => ⟨true, .bytes <$> Decoder.counted⟩
  | .tuple types => ⟨(parts types).any Part.isDynamic, .tuple <$> Part.join (parts types)⟩
  | .seq t => ⟨true, .seq <$> do
      let count ← Decoder.word
      Part.join (List.replicate count (part t))⟩

/-- How data of types are read as the parts of a tuple. -/
def parts : List ContractType → List Part
  | [] => []
  | t :: ts => t.part :: parts ts

end

theorem parts_eq_map (ts : List ContractType) : parts ts = ts.map part := by
  induction ts with
  | nil => rfl
  | cons t ts ih => rw [parts, ih, List.map_cons]

/-- Reads a datum whose components are arguments. -/
def decodeArguments (t : ContractType) : Decoder Datum := t.part.content

/-- Reads a datum on its own: if it is dynamic, its offset comes first. -/
def decode (t : ContractType) : Decoder Datum :=
  if t.part.isDynamic then do
    let _ ← Decoder.take Slot.size
    t.part.content
  else t.part.content

end ContractType

namespace HasType

variable {d e : Datum} {t : ContractType}

/-- What is written for a datum of a type is its encoding. -/
theorem encodes (h : HasType d t) : Encodes d.toValue d.component := by
  refine Datum.encodes_of_hereditary (P := fun d => ∃ t, HasType d t) ?_ ?_ ?_ ⟨t, h⟩
  · rintro bs ⟨_, h⟩
    cases h with
    | bytes h => exact h
  · rintro parts ⟨_, h⟩ d hd
    cases h with
    | tuple h =>
      have typed := h.imp fun d t ht => (⟨⟨t, ht⟩, ht⟩ : (∃ t, HasType d t) ∧ HasType d t)
      exact ((List.forall₂_and_left _ _).1 typed).1 d hd
  · rintro elements ⟨_, h⟩ d hd
    cases h with
    | seq _ h => exact ⟨_, h d hd⟩

/-- Reading by the type gives a datum of it back. -/
theorem undoes (h : HasType d t) : t.part.Undoes d := by
  induction d generalizing t with
  | bool b =>
    cases h
    refine ⟨rfl, ?_⟩
    have := (Reads.word (b.toNat_lt.trans (by decide))).map fun n => Datum.bool (n != 0)
    cases b <;> exact this
  | uint w x =>
    cases h
    refine ⟨rfl, ?_⟩
    have fits := x.isLt.trans_le (Nat.pow_le_pow_right (by decide) w.bits_le)
    have := (Reads.word fits).map fun n => Datum.uint w (BitVec.ofNat w.bits n)
    rwa [BitVec.ofNat_toNat, BitVec.setWidth_eq] at this
  | int w x =>
    cases h
    refine ⟨rfl, ?_⟩
    have := (Reads.word (x.signExtend 256).isLt).map fun n =>
      Datum.int w (BitVec.ofNat w.bits n)
    rwa [BitVec.ofNat_toNat, w.setWidth_signExtend, ← Slot.toBytes_eq_word,
      Slot.toBytes_signExtend] at this
  | fixed bs =>
    cases h
    exact ⟨rfl, (Reads.padded bs).map _⟩
  | text s =>
    cases h with
    | text h => exact ⟨rfl, (Reads.text (h.trans (by decide))).map _⟩
  | bytes bs =>
    cases h with
    | bytes h => exact ⟨rfl, (Reads.counted (h.trans (by decide))).map _⟩
  | tuple parts ih =>
    cases h with
    | @tuple _ types h =>
      -- The types of the parts are paired with the parts themselves, and so are the hypotheses.
      have undone : List.Forall₂ Part.Undoes (ContractType.parts types) parts := by
        rw [ContractType.parts_eq_map, List.forall₂_map_left_iff]
        exact (((List.forall₂_and_left _ _).2 ⟨ih, h⟩).imp fun d t ⟨ih, h⟩ => ih h).flip
      exact ⟨Part.any_isDynamic_eq undone, (Part.reads_join undone).map _⟩
  | seq elements ih =>
    cases h with
    | @seq _ t hl h =>
      -- There is one type for all elements, as many times as there are elements.
      have undone : List.Forall₂ Part.Undoes (List.replicate elements.length t.part) elements := by
        rw [← List.map_const', List.forall₂_map_left_iff, List.forall₂_same]
        exact fun d hd => ih d hd (h d hd)
      exact ⟨rfl, ((Reads.word (hl.trans (by decide))).bind (Part.reads_join undone)).map _⟩

/-- The arguments made of a datum, read by its type. -/
theorem exists_reads_arguments (h : HasType d t) :
    ∃ bs, argumentBytes d.toValue = .ok bs ∧ Reads t.decodeArguments bs d :=
  ⟨_, h.encodes.argumentBytes_eq, h.undoes.reads⟩

/-- A datum on its own, read by its type. -/
theorem exists_reads (h : HasType d t) :
    ∃ bs, Slot.flatten <$> encoding d.toValue = .ok bs ∧ Reads t.decode bs d := by
  refine ⟨_, h.encodes.encoding_eq, ?_⟩
  rw [ContractType.decode, h.undoes.isDynamic_eq, Datum.isDynamic]
  cases d.component.isDynamic with
  | true => exact (Reads.take (length_word Slot.size)).bind h.undoes.reads
  | false => exact h.undoes.reads

end HasType

/-- Two data of a type have encodings that can be told apart, whatever follows them: bytes start
    with both only if the data are the same, and then the same is left. Reading by the type tells
    them apart. This holds for arguments as well as for data on their own. -/
theorem encoding_append_inj (t : ContractType) {d e : Datum} (hd : HasType d t)
    (he : HasType e t) :
    (∃ ds es, argumentBytes d.toValue = .ok ds ∧ argumentBytes e.toValue = .ok es ∧
      (∀ xs ys, ds ++ xs = es ++ ys ↔ d = e ∧ xs = ys) ∧
      ∀ xs, t.decodeArguments.run (ds ++ xs) = some (d, xs)) ∧
    ∃ ds es, Slot.flatten <$> encoding d.toValue = .ok ds ∧
      Slot.flatten <$> encoding e.toValue = .ok es ∧
      (∀ xs ys, ds ++ xs = es ++ ys ↔ d = e ∧ xs = ys) ∧
      ∀ xs, t.decode.run (ds ++ xs) = some (d, xs) := by
  refine ⟨?_, ?_⟩
  · obtain ⟨ds, hds, readsD⟩ := hd.exists_reads_arguments
    obtain ⟨es, hes, readsE⟩ := he.exists_reads_arguments
    refine ⟨ds, es, hds, hes, fun xs ys => ⟨readsD.append_inj readsE, ?_⟩, readsD⟩
    rintro ⟨rfl, rfl⟩
    rw [Except.ok.inj (hds.symm.trans hes)]
  · obtain ⟨ds, hds, readsD⟩ := hd.exists_reads
    obtain ⟨es, hes, readsE⟩ := he.exists_reads
    refine ⟨ds, es, hds, hes, fun xs ys => ⟨readsD.append_inj readsE, ?_⟩, readsD⟩
    rintro ⟨rfl, rfl⟩
    rw [Except.ok.inj (hds.symm.trans hes)]

/-- An empty array before a slot of zeros, and an array of texts before an empty byte string. -/
theorem encoding_append_inj_texts :
    HasType (.tuple [.seq [], .bytes (List.replicate 32 0)]) (.tuple [.seq .text, .bytes]) ∧
    HasType (.tuple [.seq [.text "a", .text ""], .bytes []]) (.tuple [.seq .text, .bytes]) ∧
    ∃ ds es,
      argumentBytes (Datum.toValue (.tuple [.seq [], .bytes (List.replicate 32 0)])) = .ok ds ∧
      argumentBytes (Datum.toValue (.tuple [.seq [.text "a", .text ""], .bytes []])) = .ok es ∧
      ∀ xs ys, ds ++ xs ≠ es ++ ys := by
  have hd : HasType (.tuple [.seq [], .bytes (List.replicate 32 0)])
      (.tuple [.seq .text, .bytes]) :=
    .tuple (.cons (.seq (by decide) (by simp)) (.cons (.bytes (by decide)) .nil))
  have text {s : String} (h : (ofText s).length < 2 ^ 64) : HasType (.text s) .text := .text h
  have he : HasType (.tuple [.seq [.text "a", .text ""], .bytes []])
      (.tuple [.seq .text, .bytes]) := by
    refine .tuple (.cons (.seq (by decide) ?_) (.cons (.bytes (by decide)) .nil))
    simp only [List.mem_cons, List.not_mem_nil, or_false, forall_eq_or_imp, forall_eq]
    exact ⟨text (by decide), text (by decide)⟩
  obtain ⟨⟨ds, es, hds, hes, apart, -⟩, -⟩ := encoding_append_inj _ hd he
  refine ⟨hd, he, ds, es, hds, hes, fun xs ys h => ?_⟩
  have same := ((apart xs ys).1 h).1
  simp at same

end PaymentChannel.Abi
