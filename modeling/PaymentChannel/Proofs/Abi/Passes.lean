import PaymentChannel.Abi.Writer
import PaymentChannel.Proofs.Abi.Component
import PaymentChannel.Proofs.Abi.Filling

/-!
# What the passes over a value write

Four passes go over a value: two measure it (`layout`, `tailSize`) and two write it (`writeHead`,
`writeTail`). What they have to do with each other is stated once for every kind of value:

* `Writes e bs`: the computation `e` does not fail, and adds the bytes `bs` to what is written;
* `Passes v d a b`: the passes over `v` write `a` in place and `b` behind, and measure just that;
* `Encodes v c`: so the value `v` makes up the component `c`.

Each kind of value has a rule that says which component it makes up (`Encodes.uint`,
`Encodes.tuple`, ...). Only a marker makes up none: the passes over parts are those over the parts
that are not markers (`unmarked`). From `Encodes v c` it follows what is written for `v` as a whole
(`Encodes.encoding_eq`, `Encodes.argumentBytes_eq`).
-/

namespace PaymentChannel

/-- A chain of computations goes through if each of them does. -/
theorem bind_eq_ok_iff {ε α β : Type} {x : Except ε α} {f : α → Except ε β} {b : β} :
    (x >>= f) = .ok b ↔ ∃ a, x = .ok a ∧ f a = .ok b := by
  cases x with
  | error e => simp [bind, Except.bind]
  | ok a => simp [bind, Except.bind]

end PaymentChannel

namespace PaymentChannel.Abi

open Bytes

/-! ## Computations that write -/

/-- The computation does not fail, and adds the given bytes to what is written. -/
def Writes (e : Emit Unit) (bs : Bytes) : Prop :=
  ∃ ss, Slot.flatten ss = bs ∧ ∀ written, e.run written = (.ok (), written ++ ss)

/-- A computation goes on with what the one before it has written. -/
theorem run_seq {e : Emit Unit} {written written' : Array Slot}
    (h : e.run written = (.ok (), written')) (f : Emit Unit) :
    (do e; f).run written = f.run written' := by
  rw [ExceptT.run_bind]
  change StateT.run (e.run >>= _) written = _
  rw [StateT.run_bind, StateT.run, h]
  rfl

/-- A measure that does not fail is handed on, and nothing is written for it. -/
theorem bind_measure {α : Type} {x : Except Error α} {a : α} (h : x = .ok a)
    (f : α → Emit Unit) : (liftM x : Emit α) >>= f = f a := by
  subst h
  rfl

namespace Writes

variable {e f : Emit Unit} {bs cs : Bytes} {s : Slot}

/-- To do nothing writes no bytes. -/
theorem nothing : Writes (pure ()) [] := ⟨[], rfl, fun written => by simp; rfl⟩

/-- One slot writes its bytes. -/
theorem emit (s : Slot) : Writes (emit s) s.toBytes :=
  ⟨[s], by simp, fun written => by simp⟩

/-- Slots write their bytes in order. -/
theorem emitAll (ss : List Slot) : Writes (emitAll ss) (Slot.flatten ss) :=
  ⟨ss, rfl, run_emitAll ss⟩

/-- What is written one after the other is appended. -/
theorem seq (he : Writes e bs) (hf : Writes f cs) : Writes (do e; f) (bs ++ cs) := by
  obtain ⟨ss, rfl, he⟩ := he
  obtain ⟨ts, rfl, hf⟩ := hf
  refine ⟨ss ++ ts, Slot.flatten_append ss ts, fun written => ?_⟩
  rw [run_seq (he written), hf]
  exact Prod.ext rfl (Array.ext' (by simp))

/-- The slots that end up in an empty sink are those written. -/
theorem slots_eq (h : Writes e bs) : Slot.flatten <$> e.slots = .ok bs := by
  obtain ⟨ss, rfl, he⟩ := h
  rw [Emit.slots, he]
  simp [Functor.map, Except.map]

end Writes

/-! ## Passes over a value -/

/-- What the passes over a value come to: `inPlace` is written where the value stands, `behind`
    behind its container. -/
structure Passes (v : Value) (isDynamic : Bool) (inPlace behind : Bytes) : Prop where
  layout_eq : layout v = .ok ⟨inPlace.length, isDynamic, false⟩
  tailSize_eq : tailSize v = .ok behind.length
  writeHead : Writes (writeHead inPlace.length v) inPlace
  writeTail : Writes (writeTail v) behind
  /-- A static value has nothing to write behind. -/
  behind_eq_nil : isDynamic = false → behind = []

/-- The value makes up the component. -/
inductive Encodes : Value → Component → Prop
  | intro {v : Value} {isDynamic : Bool} {inPlace behind : Bytes} :
    Passes v isDynamic inPlace behind → Encodes v ⟨isDynamic, inPlace ++ behind⟩

namespace Passes

variable {v : Value} {isDynamic : Bool} {inPlace behind : Bytes}

/-- Among the heads, a value has the place that its component has. -/
theorem share_eq (h : Passes v isDynamic inPlace behind) :
    Layout.share ⟨inPlace.length, isDynamic, false⟩ =
      Component.headSize ⟨isDynamic, inPlace ++ behind⟩ := by
  cases isDynamic with
  | true => rfl
  | false =>
    rw [h.behind_eq_nil rfl, List.append_nil]
    rfl

/-- Behind the heads, a value has the room that its component has, which is none if it is static. -/
theorem length_tail (h : Passes v isDynamic inPlace behind) :
    (Component.tail ⟨isDynamic, inPlace ++ behind⟩).length =
      (if isDynamic then inPlace.length else 0) + behind.length := by
  cases isDynamic with
  | true => exact List.length_append
  | false =>
    rw [h.behind_eq_nil rfl]
    rfl

end Passes

/-! ## Components one after the other -/

section Components

open Component

variable {vs : List Value} {cs : List Component}

/-- The sizes of the tails are counted before they are written. -/
theorem tailSizes_eq (h : List.Forall₂ Encodes vs cs) : tailSizes vs = .ok (tails cs).length := by
  induction h with
  | nil => rfl
  | cons hv _ ih =>
    obtain ⟨hv⟩ := hv
    rw [tailSizes, hv.layout_eq, hv.tailSize_eq, ih, tails_cons, List.length_append,
      hv.length_tail]
    simp [bind, Except.bind, pure, Except.pure, Layout.isIndirect]

/-- The heads are written in place. Offsets are counted from the first head: in a sequence, that is
    one slot further on. -/
theorem writes_heads (h : List.Forall₂ Encodes vs cs) (inSequence : Bool) (distance : Nat) :
    Writes (writeHeads inSequence (if inSequence then Slot.size + distance else distance) vs)
      (heads distance cs) := by
  induction h generalizing distance with
  | nil => exact .nothing
  | cons hv _ ih =>
    obtain @⟨isDynamic, inPlace, behind, hv⟩ := hv
    rw [writeHeads, bind_measure hv.layout_eq, heads, hv.length_tail]
    cases isDynamic with
    | true =>
      -- The distance of the next tail grows by all of this value, in place and behind. What is
      -- written is the distance itself, as the slot that an offset in a sequence has on top of it
      -- is taken off again.
      rw [head_of_dynamic rfl, if_pos rfl, bind_measure hv.tailSize_eq]
      have written : (if inSequence then (if inSequence then Slot.size + distance else distance)
          - Slot.size else if inSequence then Slot.size + distance else distance) = distance := by
        cases inSequence <;> simp
      rw [written, ← toBytes_countSlot]
      refine (Writes.emit _).seq ?_
      convert ih (distance + (inPlace.length + behind.length)) using 2
      cases inSequence <;> simp <;> omega
    | false =>
      -- A static value is its own head, and the next tail is no further away.
      obtain rfl := hv.behind_eq_nil rfl
      rw [head_of_static rfl, List.append_nil]
      exact hv.writeHead.seq (ih distance)

/-- The tails are written one after the other. -/
theorem writes_tails (h : List.Forall₂ Encodes vs cs) : Writes (writeTails vs) (tails cs) := by
  induction h with
  | nil => exact .nothing
  | cons hv _ ih =>
    obtain @⟨isDynamic, inPlace, behind, hv⟩ := hv
    rw [writeTails, bind_measure hv.layout_eq, tails_cons]
    cases isDynamic with
    | true =>
      rw [tail_of_dynamic rfl, List.append_assoc]
      exact hv.writeHead.seq (hv.writeTail.seq ih)
    | false =>
      rw [tail_of_static rfl]
      exact Writes.nothing.seq ih

end Components

/-! ## Markers among parts

A marker belongs in front of the parts of a tuple, but nothing keeps it from turning up anywhere
else. Wherever it does, the passes see no more of it than that the tuple around it is dynamic. -/

namespace Value

/-- Whether the value is a marker. -/
def isMarker : Value → Bool
  | .marker => true
  | _ => false

theorem isMarker_iff {v : Value} : v.isMarker = true ↔ v = .marker := by
  cases v <;> simp [isMarker]

end Value

/-- The parts that are not markers. -/
def unmarked (vs : List Value) : List Value := vs.filter (!·.isMarker)

theorem unmarked_marker (vs : List Value) : unmarked (.marker :: vs) = unmarked vs := rfl

theorem unmarked_cons {v : Value} (h : v.isMarker = false) (vs : List Value) :
    unmarked (v :: vs) = v :: unmarked vs := by
  rw [unmarked, List.filter_cons_of_pos (by rw [h]; rfl)]
  rfl

/-- Induction on parts, with a case for markers. -/
@[elab_as_elim]
theorem parts_induction {motive : List Value → Prop} (nil : motive [])
    (marker : ∀ vs, motive vs → motive (.marker :: vs))
    (cons : ∀ v vs, v.isMarker = false → motive vs → motive (v :: vs)) (vs : List Value) :
    motive vs := by
  induction vs with
  | nil => exact nil
  | cons v vs ih =>
    cases h : v.isMarker with
    | true =>
      obtain rfl := Value.isMarker_iff.1 h
      exact marker vs ih
    | false => exact cons v vs h ih

theorem layout_marker : layout .marker = .ok ⟨0, false, true⟩ := rfl

/-- Markers count for nothing behind the heads. -/
theorem tailSizes_unmarked (vs : List Value) : tailSizes vs = tailSizes (unmarked vs) := by
  induction vs using parts_induction with
  | nil => rfl
  | marker vs ih =>
    rw [tailSizes, layout_marker, tailSize, ih, unmarked_marker]
    cases tailSizes (unmarked vs) with
    | error e => rfl
    | ok rest => simp [bind, Except.bind, pure, Except.pure, Layout.isIndirect]
  | cons v vs hv ih => rw [unmarked_cons hv, tailSizes, tailSizes, ih]

/-- Markers have no heads. -/
theorem writeHeads_unmarked (inSequence : Bool) (offset : Nat) (vs : List Value) :
    writeHeads inSequence offset vs = writeHeads inSequence offset (unmarked vs) := by
  induction vs using parts_induction generalizing offset with
  | nil => rfl
  | marker vs ih =>
    rw [writeHeads, bind_measure layout_marker, unmarked_marker, ← ih]
    rfl
  | cons v vs hv ih => simp only [unmarked_cons hv, writeHeads, ih]

/-- Markers have no tails. -/
theorem writeTails_unmarked (vs : List Value) : writeTails vs = writeTails (unmarked vs) := by
  induction vs using parts_induction with
  | nil => rfl
  | marker vs ih =>
    rw [writeTails, bind_measure layout_marker, unmarked_marker, ← ih]
    rfl
  | cons v vs hv ih => rw [unmarked_cons hv, writeTails, writeTails, ih]

/-- That the tuple around them is dynamic is all that is seen of markers. -/
theorem layouts_eq {vs : List Value} {cs : List Component}
    (h : List.Forall₂ Encodes (unmarked vs) cs) :
    layouts vs =
      .ok ⟨Component.headsSize cs,
        vs.any Value.isMarker || cs.any Component.isDynamic, false⟩ := by
  induction vs using parts_induction generalizing cs with
  | nil =>
    cases h
    rfl
  | marker vs ih =>
    rw [layouts, layout_marker, ih h]
    simp [bind, Except.bind, pure, Except.pure, Layout.cons, Layout.share, Layout.isIndirect,
      Value.isMarker]
  | cons v vs hv ih =>
    rw [unmarked_cons hv] at h
    obtain _ | ⟨⟨part⟩, h⟩ := h
    rw [layouts, part.layout_eq, ih h, Component.headsSize_cons, List.any_cons, List.any_cons,
      ← part.share_eq, hv]
    simp [bind, Except.bind, pure, Except.pure, Layout.cons, Bool.or_left_comm]

/-- Markers are no components. -/
theorem unmarked_of_encodes {vs : List Value} {cs : List Component}
    (h : List.Forall₂ Encodes vs cs) : unmarked vs = vs ∧ vs.any Value.isMarker = false := by
  induction h with
  | nil => exact ⟨rfl, rfl⟩
  | @cons v c vs cs hv _ ih =>
    have hv : v.isMarker = false := by
      obtain ⟨hv⟩ := hv
      refine Bool.eq_false_iff.2 fun h => ?_
      obtain rfl := Value.isMarker_iff.1 h
      exact Bool.noConfusion (congrArg Layout.isMarker (Except.ok.inj hv.layout_eq))
    exact ⟨by rw [unmarked_cons hv, ih.1], by rw [List.any_cons, hv, ih.2]; rfl⟩

/-! ## Rules -/

namespace Encodes

/-- Elementary values are written in place, whatever offset they are given. -/
theorem elementary {v : Value} {bs : Bytes} (hl : layout v = .ok ⟨bs.length, false, false⟩)
    (ht : tailSize v = .ok 0) (hh : ∀ offset, Writes (writeHead offset v) bs)
    (hw : writeTail v = pure ()) : Encodes v ⟨false, bs⟩ := by
  have h : Passes v false bs [] := ⟨hl, ht, hh _, hw ▸ .nothing, fun _ => rfl⟩
  simpa using intro h

/-- A Boolean is written as zero or one. -/
theorem bool (b : Bool) : Encodes (.bool b) ⟨false, word b.toNat⟩ := by
  have bytes_eq : (unsignedSlot .w8 (.ofNat _ b.toNat)).toBytes = word b.toNat := by
    rw [toBytes_unsignedSlot]
    cases b <;> rfl
  refine elementary (by rw [length_word]; rfl) rfl (fun offset => ?_) rfl
  rw [← bytes_eq]
  exact .emit _

/-- An unsigned integer is written as the number it stands for. -/
theorem uint (w : Width) (x : BitVec w.bits) : Encodes (.uint w x) ⟨false, word x.toNat⟩ := by
  refine elementary (by rw [length_word]; rfl) rfl (fun offset => ?_) rfl
  rw [← toBytes_unsignedSlot]
  exact .emit _

/-- A signed integer is written in two's complement. -/
theorem int (w : Width) (x : BitVec w.bits) :
    Encodes (.int w x) ⟨false, signedWord x.toInt⟩ := by
  refine elementary (by rw [length_signedWord]; rfl) rfl (fun offset => ?_) rfl
  rw [← toBytes_signedSlot]
  exact .emit _

/-- Bytes of a fixed size are written in place, padded at the end. -/
theorem raw (bs : Bytes) : Encodes (.raw bs) ⟨false, padded bs⟩ := by
  refine elementary (by rw [length_padded]; rfl) rfl (fun offset => ?_) rfl
  rw [← Slot.flatten_slots]
  exact .emitAll _

/-- A text is all behind: its length, then its bytes. -/
theorem text (s : String) :
    Encodes (.text s) ⟨true, word (ofText s).length ++ padded (ofText s)⟩ := by
  have h : Passes (.text s) true [] (word (ofText s).length ++ padded (ofText s)) :=
    { layout_eq := rfl
      tailSize_eq := by
        rw [List.length_append, length_word, length_padded]
        rfl
      writeHead := .nothing
      writeTail := by
        rw [← toBytes_countSlot, ← Slot.flatten_slots]
        exact (Writes.emit _).seq (.emitAll _)
      behind_eq_nil := fun h => Bool.noConfusion h }
  simpa using intro h

variable {vs : List Value} {cs : List Component}

/-- A tuple with markers anywhere is that of the other parts, and dynamic. -/
theorem tuple_of_unmarked (h : List.Forall₂ Encodes (unmarked vs) cs) :
    Encodes (.tuple vs)
      ⟨vs.any Value.isMarker || cs.any Component.isDynamic, Component.join cs⟩ := by
  refine intro ⟨?_, ?_, ?_, ?_, fun static => ?_⟩
  · rw [layout, layouts_eq h, Component.length_heads]
  · rw [tailSize, tailSizes_unmarked, tailSizes_eq h]
  · rw [writeHead, Component.length_heads, writeHeads_unmarked]
    exact writes_heads h false _
  · rw [writeTail, writeTails_unmarked]
    exact writes_tails h
  · exact Component.tails_of_static (Bool.or_eq_false_iff.1 static).2

/-- A tuple is written as its parts are, the heads before the tails. -/
theorem tuple (h : List.Forall₂ Encodes vs cs) :
    Encodes (.tuple vs) ⟨cs.any Component.isDynamic, Component.join cs⟩ := by
  obtain ⟨same, none⟩ := unmarked_of_encodes h
  have := @tuple_of_unmarked vs cs (same.symm ▸ h)
  rwa [none] at this

/-- A marker in front of a tuple makes it dynamic, and changes nothing else. -/
theorem marked (h : List.Forall₂ Encodes vs cs) :
    Encodes (.tuple (.marker :: vs)) ⟨true, Component.join cs⟩ := by
  refine tuple_of_unmarked ?_
  rwa [unmarked_marker, (unmarked_of_encodes h).1]

/-- A byte string is all in place, although it is dynamic. The length in front of it is a number of
    64 bits. -/
theorem bytes (bs : Bytes) :
    Encodes (.bytes bs) ⟨true, word (bs.length % 2 ^ 64) ++ padded bs⟩ := by
  have h := marked (.cons (uint .w64 (BitVec.ofNat 64 bs.length)) (.cons (raw bs) .nil))
  change Encodes (.bytes bs)
    ⟨true, Component.join [⟨false, word (bs.length % 2 ^ 64)⟩, ⟨false, padded bs⟩]⟩ at h
  simpa [Component.join, Component.heads, Component.head] using h

/-- The announced length is written as it is, whether true or not. Markers among the elements go
    unseen. -/
theorem seq_of_unmarked (h : List.Forall₂ Encodes (unmarked vs) cs) (announced : Nat) :
    Encodes (.seq (some announced) vs) ⟨true, word announced ++ Component.join cs⟩ := by
  rw [Component.join, ← List.append_assoc]
  refine intro ⟨?_, ?_, ?_, ?_, fun h => Bool.noConfusion h⟩
  · rw [layout, layouts_eq h, List.length_append, length_word, Component.length_heads]
    rfl
  · rw [tailSize, tailSizes_unmarked, tailSizes_eq h]
  · rw [writeHead, List.length_append, length_word, Component.length_heads,
      ← toBytes_countSlot, writeHeads_unmarked]
    exact (Writes.emit _).seq (writes_heads h true _)
  · rw [writeTail, writeTails_unmarked]
    exact writes_tails h

/-- A sequence is written as its number of elements, and then as its elements are. -/
theorem seq (h : List.Forall₂ Encodes vs cs) (announced : Nat) :
    Encodes (.seq (some announced) vs) ⟨true, word announced ++ Component.join cs⟩ :=
  seq_of_unmarked ((unmarked_of_encodes h).1.symm ▸ h) announced

end Encodes

/-! ## Values as a whole -/

section Whole

variable {v : Value} {c : Component}

/-- A value is written as its component says, after an offset if one is wanted. -/
theorem Encodes.writes (h : Encodes v c) (withOffset : Bool) :
    Writes (write withOffset v)
      ((if c.isDynamic && withOffset then word Slot.size else []) ++ c.content) := by
  obtain @⟨isDynamic, inPlace, behind, h⟩ := h
  rw [write, bind_measure h.layout_eq]
  cases isDynamic with
  | true =>
    have body := h.writeHead.seq h.writeTail
    cases withOffset with
    | true =>
      rw [← toBytes_countSlot]
      exact (Writes.emit _).seq body
    | false => exact body
  | false =>
    rw [h.behind_eq_nil rfl]
    exact h.writeHead.seq .nothing

/-- A value on its own: a dynamic one is preceded by its offset, which is one slot. -/
theorem Encodes.encoding_eq (h : Encodes v c) :
    Slot.flatten <$> encoding v =
      .ok (if c.isDynamic then word Slot.size ++ c.content else c.content) := by
  rw [encoding, encode, (h.writes true).slots_eq]
  cases c.isDynamic <;> rfl

/-- A value whose components are arguments: nothing precedes it. -/
theorem Encodes.argumentBytes_eq (h : Encodes v c) : argumentBytes v = .ok c.content := by
  rw [argumentBytes, argumentEncoding, encodeArguments, (h.writes false).slots_eq]
  simp

end Whole

end PaymentChannel.Abi
