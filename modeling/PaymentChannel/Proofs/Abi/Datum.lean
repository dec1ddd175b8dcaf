import PaymentChannel.Proofs.Abi.Passes

/-!
# The encoding of data

A `Datum` is a value that contracts have a type for: elementary values, texts, byte strings, and
tuples and sequences of data, nested to any depth. (A record is the tuple of its fields, a value in
a wrapper the tuple of that value alone.) `Datum.toValue` hands it over, with sequences announcing
their true length.

The encoding of a datum is defined in one go (`Datum.encoded`), with no pass that measures before
another one writes:

* a tuple is the join of its components, so that a dynamic one is referred to by its distance from
  the beginning of the tuple;
* a sequence is its length followed by the tuple of its elements, whose distances hence count from
  the first element;
* texts and byte strings are their length followed by the padded bytes.

Writing a datum gives its encoding, preceded by the offset of one slot if the datum is dynamic and
is written on its own (`Datum.encoding_toValue`).
-/

namespace PaymentChannel.Abi

open Bytes

/-- A value that contracts have a type for. -/
inductive Datum where
  | bool (b : Bool)
  | uint (w : Width) (x : BitVec w.bits)
  | int (w : Width) (x : BitVec w.bits)
  /-- Bytes of a length that the type fixes. -/
  | fixed (bs : Bytes)
  | text (s : String)
  | bytes (bs : Bytes)
  | tuple (parts : List Datum)
  | seq (elements : List Datum)

namespace Datum

mutual

/-- The value that is handed over for a datum. -/
def toValue : Datum → Value
  | .bool b => .bool b
  | .uint w x => .uint w x
  | .int w x => .int w x
  | .fixed bs => .raw bs
  | .text s => .text s
  | .bytes bs => .bytes bs
  | .tuple parts => .tuple (toValues parts)
  | .seq elements => .array (toValues elements)

/-- The values that are handed over for data. -/
def toValues : List Datum → List Value
  | [] => []
  | d :: ds => d.toValue :: toValues ds

end

mutual

/-- What a datum is as a component of a tuple: whether it is dynamic, and its encoding. -/
def component : Datum → Component
  | .bool b => ⟨false, word b.toNat⟩
  | .uint _ x => ⟨false, word x.toNat⟩
  | .int _ x => ⟨false, signedWord x.toInt⟩
  | .fixed bs => ⟨false, padded bs⟩
  | .text s => ⟨true, word (ofText s).length ++ padded (ofText s)⟩
  | .bytes bs => ⟨true, word bs.length ++ padded bs⟩
  | .tuple parts =>
    ⟨(components parts).any Component.isDynamic, Component.join (components parts)⟩
  | .seq elements => ⟨true, word elements.length ++ Component.join (components elements)⟩

/-- What data are as components of a tuple. -/
def components : List Datum → List Component
  | [] => []
  | d :: ds => d.component :: components ds

end

/-- Whether a tuple refers to the datum by its distance. -/
def isDynamic (d : Datum) : Bool := d.component.isDynamic

/-- The encoding of a datum. -/
def encoded (d : Datum) : Bytes := d.component.content

theorem toValues_eq_map (ds : List Datum) : toValues ds = ds.map toValue := by
  induction ds with
  | nil => rfl
  | cons d ds ih => rw [toValues, ih, List.map_cons]

theorem components_eq_map (ds : List Datum) : components ds = ds.map component := by
  induction ds with
  | nil => rfl
  | cons d ds ih => rw [components, ih, List.map_cons]

/-- Induction on data, with a hypothesis for every part of a tuple and every element of a
    sequence. -/
@[elab_as_elim, induction_eliminator]
theorem induction {motive : Datum → Prop}
    (bool : ∀ b, motive (.bool b))
    (uint : ∀ w x, motive (.uint w x))
    (int : ∀ w x, motive (.int w x))
    (fixed : ∀ bs, motive (.fixed bs))
    (text : ∀ s, motive (.text s))
    (bytes : ∀ bs, motive (.bytes bs))
    (tuple : ∀ parts, (∀ d ∈ parts, motive d) → motive (.tuple parts))
    (seq : ∀ elements, (∀ d ∈ elements, motive d) → motive (.seq elements))
    (d : Datum) : motive d := by
  refine @Datum.rec motive (fun ds => ∀ d ∈ ds, motive d) bool uint int fixed text bytes tuple seq
    (fun _ h => absurd h List.not_mem_nil) (fun d ds hd hds e he => ?_) d
  rcases List.mem_cons.1 he with rfl | he
  · exact hd
  · exact hds e he

theorem forall₂_encodes {ds : List Datum} (h : ∀ d ∈ ds, Encodes d.toValue d.component) :
    List.Forall₂ Encodes (toValues ds) (components ds) := by
  rwa [toValues_eq_map, components_eq_map, List.forall₂_map_left_iff, List.forall₂_map_right_iff,
    List.forall₂_same]

/-- The passes over a datum write its encoding, if a property that is handed down to the parts keeps
    byte strings short enough: their length is written as a number of 64 bits, and therefore has to
    be one. -/
theorem encodes_of_hereditary {P : Datum → Prop}
    (bytes : ∀ bs, P (.bytes bs) → bs.length < 2 ^ 64)
    (tuple : ∀ parts, P (.tuple parts) → ∀ d ∈ parts, P d)
    (seq : ∀ elements, P (.seq elements) → ∀ d ∈ elements, P d) {d : Datum} (h : P d) :
    Encodes d.toValue d.component := by
  induction d with
  | bool b => exact .bool b
  | uint w x => exact .uint w x
  | int w x => exact .int w x
  | fixed bs => exact .raw bs
  | text s => exact .text s
  | bytes bs =>
    rw [toValue, component, ← Nat.mod_eq_of_lt (bytes bs h)]
    exact .bytes bs
  | tuple parts ih => exact .tuple (forall₂_encodes fun d hd => ih d hd (tuple parts h d hd))
  | seq elements ih =>
    have := Encodes.seq (forall₂_encodes fun d hd => ih d hd (seq elements h d hd)) elements.length
    rwa [toValue, Value.array, toValues_eq_map, List.length_map, ← toValues_eq_map]

/-- The encodings of parts are no longer than that of the tuple. -/
theorem length_encoded_le {d : Datum} {ds : List Datum} (h : d ∈ ds) :
    d.encoded.length ≤ (Component.join (components ds)).length := by
  rw [components_eq_map]
  exact Component.length_content_le (List.mem_map_of_mem h)

/-- The passes over a datum write its encoding if that is not too long. -/
theorem encodes (d : Datum) (h : d.encoded.length < 2 ^ 64) : Encodes d.toValue d.component := by
  refine encodes_of_hereditary (P := fun d => d.encoded.length < 2 ^ 64) ?_ ?_ ?_ h
  · intro bs h
    rw [encoded, component, List.length_append, length_padded] at h
    have := le_paddedLength bs.length
    omega
  · exact fun parts h d hd => (length_encoded_le hd).trans_lt h
  · intro elements h d hd
    rw [encoded, component, List.length_append] at h
    exact (length_encoded_le hd).trans_lt (by omega)

/-- Writing a datum gives its encoding: alone if its components are arguments, and preceded by the
    offset of one slot if it is dynamic and written on its own. -/
theorem encoding_toValue (d : Datum) (h : d.encoded.length < 2 ^ 64) :
    argumentBytes d.toValue = .ok d.encoded ∧
      Slot.flatten <$> encoding d.toValue =
        .ok (if d.isDynamic then word 0x20 ++ d.encoded else d.encoded) :=
  ⟨(d.encodes h).argumentBytes_eq, (d.encodes h).encoding_eq⟩

/-- Texts in a sequence in a tuple: the distances of the texts count from the first element. -/
theorem encoding_toValue_texts :
    (encoded (.tuple [.bool true, .seq [.text "ab", .text ""]])).length < 2 ^ 64 ∧
      argumentBytes (toValue (.tuple [.bool true, .seq [.text "ab", .text ""]])) =
        .ok (word 1 ++ (word 64 ++
          (word 2 ++ (word 64 ++ (word 128 ++ (word 2 ++ (padded [97, 98] ++ word 0))))))) ∧
      Slot.flatten <$> encoding (toValue (.tuple [.bool true, .seq [.text "ab", .text ""]])) =
        .ok (word 32 ++ (word 1 ++ (word 64 ++
          (word 2 ++ (word 64 ++ (word 128 ++ (word 2 ++ (padded [97, 98] ++ word 0)))))))) := by
  have value : encoded (.tuple [.bool true, .seq [.text "ab", .text ""]]) =
      word 1 ++ (word 64 ++
        (word 2 ++ (word 64 ++ (word 128 ++ (word 2 ++ (padded [97, 98] ++ word 0)))))) := by
    have ab : ofText "ab" = [97, 98] := rfl
    have empty : ofText "" = [] := rfl
    simp [encoded, component, components, Component.join, Component.heads, Component.head,
      Component.tail, Component.headSize, ab, empty, paddedLength, slotCount, Slot.size]
  have short : (encoded (.tuple [.bool true, .seq [.text "ab", .text ""]])).length < 2 ^ 64 := by
    rw [value]
    simp only [List.length_append, length_word, length_padded]
    decide
  have h := encoding_toValue _ short
  rw [value] at h
  exact ⟨short, h.1, h.2⟩

end Datum

end PaymentChannel.Abi
