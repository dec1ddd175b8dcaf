import PaymentChannel.Proofs.Abi.Passes

/-!
# Values that can be measured

Whatever can be measured can be written, in just the measured size, no matter how little sense it
makes: sequences may announce any length, markers and bytes may stand anywhere.

* `exists_encodes`: what can be measured makes up a component, unless it is a marker;
* `Measures v l n`, `MeasuresAll vs l n`: the measures of a value and of the tuple of several ones;
* `MeasuresAll.split`: parts of a tuple are measured one by one, and the measures added up.
-/

namespace PaymentChannel.Abi

open Bytes Component

/-! ## Components of what can be measured -/

theorem layouts_cons_eq_ok {v : Value} {vs : List Value} {whole : Layout}
    (h : layouts (v :: vs) = .ok whole) :
    ∃ part rest, layout v = .ok part ∧ layouts vs = .ok rest ∧ whole = .cons part rest := by
  rw [layouts, bind_eq_ok_iff] at h
  obtain ⟨part, hv, h⟩ := h
  obtain ⟨rest, hvs, h⟩ := bind_eq_ok_iff.1 h
  exact ⟨part, rest, hv, hvs, (Except.ok.inj h).symm⟩

theorem layout_seq_eq_ok {announced : Nat} {elements : List Value} {whole : Layout}
    (h : layout (.seq (some announced) elements) = .ok whole) :
    ∃ rest, layouts elements = .ok rest ∧ whole = .sequence rest := by
  rw [layout, bind_eq_ok_iff] at h
  obtain ⟨rest, he, h⟩ := h
  exact ⟨rest, he, (Except.ok.inj h).symm⟩

theorem isMarker_of_layouts {vs : List Value} {whole : Layout} (h : layouts vs = .ok whole) :
    whole.isMarker = false := by
  cases vs with
  | nil =>
    rw [← Except.ok.inj h]
    rfl
  | cons v vs =>
    obtain ⟨_, _, -, -, rfl⟩ := layouts_cons_eq_ok h
    rfl

mutual

/-- Whatever can be measured makes up a component, unless it is a marker. -/
theorem exists_encodes : (v : Value) → {whole : Layout} → layout v = .ok whole →
    v = .marker ∨ ∃ c, Encodes v c
  | .bool b, _, _ => .inr ⟨_, .bool b⟩
  | .uint w x, _, _ => .inr ⟨_, .uint w x⟩
  | .int w x, _, _ => .inr ⟨_, .int w x⟩
  | .text s, _, _ => .inr ⟨_, .text s⟩
  | .raw bs, _, _ => .inr ⟨_, .raw bs⟩
  | .marker, _, _ => .inl rfl
  | .tuple parts, _, h => by
    rw [layout] at h
    obtain ⟨cs, hcs⟩ := exists_components parts h
    exact .inr ⟨_, .tuple_of_unmarked hcs⟩
  | .seq (some announced) elements, _, h => by
    obtain ⟨_, h, -⟩ := layout_seq_eq_ok h
    obtain ⟨cs, hcs⟩ := exists_components elements h
    exact .inr ⟨_, .seq_of_unmarked hcs announced⟩
  | .seq none _, _, h | .foreign _ _, _, h | .pending _, _, h | .failure _, _, h => nomatch h

theorem exists_components : (vs : List Value) → {whole : Layout} → layouts vs = .ok whole →
    ∃ cs, List.Forall₂ Encodes (unmarked vs) cs
  | [], _, _ => ⟨[], .nil⟩
  | v :: vs, _, h => by
    obtain ⟨_, _, hv, hvs, -⟩ := layouts_cons_eq_ok h
    obtain ⟨cs, hcs⟩ := exists_components vs hvs
    cases hm : v.isMarker with
    | true =>
      obtain rfl := Value.isMarker_iff.1 hm
      exact ⟨cs, hcs⟩
    | false =>
      obtain rfl | ⟨c, hc⟩ := exists_encodes v hv
      · exact nomatch hm
      · rw [unmarked_cons hm]
        exact ⟨c :: cs, .cons hc hcs⟩

end

/-! ## Measures -/

/-- The value has the given layout, and a tail of the given size. -/
structure Measures (v : Value) (whole : Layout) (tail : Nat) : Prop where
  layout_eq : layout v = .ok whole
  tailSize_eq : tailSize v = .ok tail

/-- The tuple of the values has the given layout, and a tail of the given size. -/
structure MeasuresAll (vs : List Value) (whole : Layout) (tail : Nat) : Prop where
  layouts_eq : layouts vs = .ok whole
  tailSizes_eq : tailSizes vs = .ok tail

theorem exists_measures {v : Value} {whole : Layout} (h : layout v = .ok whole) :
    ∃ tail, Measures v whole tail := by
  obtain rfl | ⟨c, ⟨hc⟩⟩ := exists_encodes v h
  · exact ⟨0, h, rfl⟩
  · exact ⟨_, h, hc.tailSize_eq⟩

/-- The number of bytes behind the head of a tuple that a part takes up there. -/
def Layout.behind (part : Layout) (tail : Nat) : Nat :=
  if part.isIndirect then part.headSize + tail else 0

section Parts

variable {v : Value} {vs ws : List Value} {part whole rest : Layout}
  {tail behind : Nat}

/-- Nothing of a direct part is behind its container. -/
theorem Measures.eq_zero (h : Measures v part tail) (direct : part.isIndirect = false) :
    tail = 0 := by
  obtain rfl | ⟨c, hc⟩ := exists_encodes v h.layout_eq
  · exact (Except.ok.inj h.tailSize_eq).symm
  · obtain @⟨isDynamic, inPlace, behind, hc⟩ := hc
    obtain rfl := Except.ok.inj (h.layout_eq.symm.trans hc.layout_eq)
    have static : isDynamic = false := by simpa [Layout.isIndirect] using direct
    have size := Except.ok.inj (h.tailSize_eq.symm.trans hc.tailSize_eq)
    rw [size, hc.behind_eq_nil static, List.length_nil]

theorem MeasuresAll.nil : MeasuresAll [] .empty 0 := ⟨rfl, rfl⟩

theorem Measures.cons (hv : Measures v part tail) (hvs : MeasuresAll vs rest behind) :
    MeasuresAll (v :: vs) (.cons part rest) (part.behind tail + behind) := by
  refine ⟨?_, ?_⟩
  · rw [layouts, hv.layout_eq, hvs.layouts_eq]
    rfl
  · have direct := hv.eq_zero
    rw [tailSizes, hv.layout_eq, hv.tailSize_eq, hvs.tailSizes_eq, Layout.behind]
    cases hp : part.isIndirect with
    | true => simp [hp, bind, Except.bind, pure, Except.pure]
    | false => simp [hp, direct hp, bind, Except.bind, pure, Except.pure]

/-- The first part adds its share of the head, and what is behind. -/
theorem MeasuresAll.of_cons (h : MeasuresAll (v :: vs) whole tail) :
    ∃ part size rest behind, Measures v part size ∧ MeasuresAll vs rest behind ∧
      whole = .cons part rest ∧ tail = part.behind size + behind := by
  obtain ⟨part, rest, hv, hvs, rfl⟩ := layouts_cons_eq_ok h.layouts_eq
  have tails := h.tailSizes_eq
  rw [tailSizes, bind_eq_ok_iff] at tails
  obtain ⟨_, hv', tails⟩ := tails
  obtain rfl := Except.ok.inj (hv.symm.trans hv')
  obtain ⟨size, hsize, tails⟩ := bind_eq_ok_iff.1 tails
  obtain ⟨behind, hrest, tails⟩ := bind_eq_ok_iff.1 tails
  have measured : Measures v part size := ⟨hv, hsize⟩
  refine ⟨part, size, rest, behind, measured, ⟨hvs, hrest⟩, rfl, ?_⟩
  rw [← Except.ok.inj tails, Layout.behind]
  split
  · rfl
  · next direct => rw [measured.eq_zero (Bool.eq_false_iff.2 direct)]

/-- A tuple is no smaller than its first part, whether that is behind the head or not. -/
theorem Measures.le_cons (h : Measures v part tail) (rest : Layout) :
    part.headSize + tail ≤ (Layout.cons part rest).headSize + part.behind tail := by
  rw [Layout.cons, Layout.share, Layout.behind]
  cases hp : part.isIndirect with
  | true => exact Nat.le_add_left _ _
  | false =>
    rw [h.eq_zero hp]
    exact Nat.le_add_right _ _

/-- Parts are measured one after the other. -/
theorem MeasuresAll.split (h : MeasuresAll (vs ++ ws) whole tail) :
    ∃ first size rest behind, MeasuresAll vs first size ∧ MeasuresAll ws rest behind ∧
      whole.headSize = first.headSize + rest.headSize ∧ tail = size + behind := by
  induction vs generalizing whole tail with
  | nil => exact ⟨_, _, _, _, .nil, h, (Nat.zero_add _).symm, (Nat.zero_add _).symm⟩
  | cons v vs ih =>
    obtain ⟨part, size, rest, behind, hv, hrest, rfl, rfl⟩ := h.of_cons
    obtain ⟨first, size', last, behind', hvs, hws, heads, tails⟩ := ih hrest
    refine ⟨.cons part first, part.behind size + size', last, behind', hv.cons hvs, hws, ?_, ?_⟩
    · rw [Layout.cons, Layout.cons, heads, Nat.add_assoc]
    · rw [tails, Nat.add_assoc]

end Parts

/-! ## What is written -/

/-- As many bytes are written in place and behind as have been measured. -/
theorem Measures.exists_writes {v : Value} {whole : Layout} {tail : Nat}
    (h : Measures v whole tail) :
    ∃ inPlace behind, Writes (writeHead whole.headSize v) inPlace ∧ Writes (writeTail v) behind ∧
      inPlace.length = whole.headSize ∧ behind.length = tail ∧
      argumentBytes v = .ok (inPlace ++ behind) := by
  obtain rfl | ⟨c, hc⟩ := exists_encodes v h.layout_eq
  · obtain rfl := Except.ok.inj h.layout_eq
    obtain rfl := Except.ok.inj h.tailSize_eq
    exact ⟨[], [], .nothing, .nothing, rfl, rfl, rfl⟩
  · have written := hc.argumentBytes_eq
    obtain @⟨isDynamic, inPlace, behind, hc⟩ := hc
    obtain rfl := Except.ok.inj (hc.layout_eq.symm.trans h.layout_eq)
    obtain rfl := Except.ok.inj (hc.tailSize_eq.symm.trans h.tailSize_eq)
    exact ⟨inPlace, behind, hc.writeHead, hc.writeTail, rfl, rfl, written⟩

/-- What precedes a value on its own: if it is dynamic, its offset, which is one slot. -/
def Layout.preamble (whole : Layout) (withOffset : Bool) : List Slot :=
  if whole.isDynamic && withOffset then [.ofCount Slot.size] else []

theorem Measures.writes {v : Value} {whole : Layout} {tail : Nat} {bs : Bytes}
    (h : Measures v whole tail) (written : argumentBytes v = .ok bs) (withOffset : Bool) :
    Writes (write withOffset v) (Slot.flatten (whole.preamble withOffset) ++ bs) := by
  obtain rfl | ⟨c, hc⟩ := exists_encodes v h.layout_eq
  · obtain rfl := Except.ok.inj h.layout_eq
    obtain rfl := Except.ok.inj written
    exact .nothing
  · obtain rfl := Except.ok.inj (hc.argumentBytes_eq.symm.trans written)
    have dynamic : c.isDynamic = whole.isDynamic := by
      obtain ⟨hc⟩ := hc
      rw [← Except.ok.inj (hc.layout_eq.symm.trans h.layout_eq)]
    have lead : Slot.flatten (whole.preamble withOffset) =
        if c.isDynamic && withOffset then word Slot.size else [] := by
      rw [Layout.preamble, ← dynamic]
      split
      · rw [← Slot.toBytes_ofCount, Slot.flatten, List.flatMap_singleton]
      · rfl
    rw [lead]
    exact hc.writes withOffset

/-- What is written as arguments is what has been measured. -/
theorem Measures.length_eq {v : Value} {whole : Layout} {tail : Nat} {bs : Bytes}
    (h : Measures v whole tail) (written : argumentBytes v = .ok bs) :
    bs.length = whole.headSize + tail := by
  obtain ⟨_, _, -, -, size, size', written'⟩ := h.exists_writes
  obtain rfl := Except.ok.inj (written'.symm.trans written)
  rw [List.length_append, size, size']

/-- What is written has been measured before. -/
theorem exists_measures_of_argumentBytes {v : Value} {bs : Bytes} (h : argumentBytes v = .ok bs) :
    ∃ whole tail, Measures v whole tail := by
  cases hl : layout v with
  | error e =>
    rw [argumentBytes, argumentEncoding, Emit.slots, encodeArguments, write, hl] at h
    cases show Except.error e = .ok bs from h
  | ok whole => exact ⟨whole, exists_measures hl⟩

section Written

variable {vs : List Value} {whole : Layout} {tail : Nat}

theorem MeasuresAll.exists_writes_heads (h : MeasuresAll vs whole tail) {inSequence : Bool}
    {offset : Nat} (counts : inSequence = true → Slot.size ≤ offset) :
    ∃ bs, Writes (writeHeads inSequence offset vs) bs ∧ bs.length = whole.headSize := by
  obtain ⟨cs, hcs⟩ := exists_components vs h.layouts_eq
  obtain rfl := Except.ok.inj ((Abi.layouts_eq hcs).symm.trans h.layouts_eq)
  have written := writes_heads hcs inSequence (if inSequence then offset - Slot.size else offset)
  have start : (if inSequence then
      Slot.size + (if inSequence then offset - Slot.size else offset)
      else if inSequence then offset - Slot.size else offset) = offset := by
    cases inSequence with
    | true => exact Nat.add_sub_cancel' (counts rfl)
    | false => rfl
  rw [start, ← writeHeads_unmarked] at written
  exact ⟨_, written, length_heads⟩

theorem MeasuresAll.exists_writes_tails (h : MeasuresAll vs whole tail) :
    ∃ bs, Writes (writeTails vs) bs ∧ bs.length = tail := by
  obtain ⟨cs, hcs⟩ := exists_components vs h.layouts_eq
  have size := h.tailSizes_eq
  rw [tailSizes_unmarked, Abi.tailSizes_eq hcs] at size
  obtain rfl := Except.ok.inj size
  refine ⟨_, ?_, rfl⟩
  rw [writeTails_unmarked]
  exact writes_tails hcs

end Written

end PaymentChannel.Abi
