import PaymentChannel.Proofs.Abi.Acceptance

/-!
# The passes as those of a machine

The passes over a value can also be told step by step, as those of a machine. A `Serializer` is in
one of four passes: it counts the bytes of what it goes through, or writes them to a sink, and takes
down whether there was anything dynamic. It goes through the parts of a container one by one. Before
anything else, each of them is measured by a serializer of its own, which has no sink. Counting is
done with numbers of 64 bits.

A serializer refuses a value that has no encoding. Besides that, it comes to a halt if a number
leaves its range, if it is to write without a sink, and if a measuring serializer ends up in another
pass than it began with.

* `Simulates x p p' e`: from the pass `p` to the pass `p'`, the step `x` writes what `e` writes;
* `conforms`, `partsConform`: in its four passes, a serializer counts what `layout` and `tailSize`
  tell, and writes what `writeHead` and `writeTail` write;
* `serializeTo_eq`: it therefore writes a value just as `write` does.
-/

namespace PaymentChannel.Abi

open Bytes

/-! ## The machine -/

/-- What a serializer does with a value, and how far it has come. -/
inductive Pass where
  /-- It counts the bytes of the head. -/
  | headSize (counted : Nat)
  /-- It writes the head. The next tail will begin at the offset. -/
  | head (offset : Nat)
  /-- It counts the bytes of the tail. -/
  | tailSize (counted : Nat)
  /-- It writes the tail. -/
  | tail

/-- Where a serializer writes to. -/
inductive Sink where
  /-- A serializer that measures has nowhere to write to. -/
  | nowhere
  | slots (written : Array Slot)

/-- A serializer on its way through a value. -/
structure Serializer where
  sink : Sink
  pass : Pass
  /-- Whether what it has measured so far has a tail. -/
  isDynamic : Bool
  /-- Whether it has measured a marker. -/
  isMarker : Bool

/-- Why a serializer comes to a halt. -/
inductive Halt where
  /-- The value cannot be encoded. -/
  | refused (e : Error)
  /-- A sum has more than 64 bits. -/
  | overflow
  /-- More is subtracted than there is. -/
  | underflow
  /-- There is nowhere to write to. -/
  | wroteNowhere
  /-- A measuring serializer is in another pass than it began with. -/
  | unreachable

/-- What a value does with a serializer. -/
abbrev Serialization := Serializer → Except Halt Serializer

namespace Serializer

/-- The sum of two numbers of 64 bits. -/
def add (m n : Nat) : Except Halt Nat := if m + n < 2 ^ 64 then pure (m + n) else throw .overflow

/-- The difference of two numbers of 64 bits. -/
def sub (m n : Nat) : Except Halt Nat := if n ≤ m then pure (m - n) else throw .underflow

/-- The number of bytes that `n` bytes occupy in whole slots. -/
def padded (n : Nat) : Except Halt Nat := do
  let filled ← sub n (n % Slot.size)
  add filled (if n % Slot.size = 0 then 0 else Slot.size)

/-- Writes one slot. -/
def write (s : Slot) : Serialization := fun m =>
  match m.sink with
  | .nowhere => throw .wroteNowhere
  | .slots written => pure { m with sink := .slots (written.push s) }

/-- Writes slots in their order. -/
def writeAll : List Slot → Serialization
  | [] => pure
  | s :: ss => fun m => do writeAll ss (← write s m)

/-- Refuses a value. -/
def refuse (e : Error) : Serialization := fun _ => throw (.refused e)

/-- An elementary value: one slot in the head, and nothing in the tail. -/
def slot (s : Slot) : Serialization := fun m =>
  match m.pass with
  | .headSize counted => do pure { m with pass := .headSize (← add counted Slot.size) }
  | .head _ => write s m
  | .tailSize _ | .tail => pure m

/-- The bytes of a text: nothing in the head, and the length and the bytes in the tail. -/
def text (bs : Bytes) : Serialization := fun m =>
  match m.pass with
  | .headSize _ => pure { m with isDynamic := true }
  | .head _ => pure m
  | .tailSize counted => do
    let size ← add Slot.size (← padded bs.length)
    pure { m with pass := .tailSize (← add counted size) }
  | .tail => do writeAll bs.slots (← write (countSlot bs.length) m)

/-- Bytes in place: all of them in the head. -/
def raw (bs : Bytes) : Serialization := fun m =>
  match m.pass with
  | .headSize counted => do pure { m with pass := .headSize (← add counted (← padded bs.length)) }
  | .head _ => writeAll bs.slots m
  | .tailSize _ | .tail => pure m

/-- A marker: it is taken down that there was one. -/
def marker : Serialization := fun m =>
  match m.pass with
  | .headSize _ => pure { m with isMarker := true }
  | .head _ | .tailSize _ | .tail => pure m

/-- The beginning of a sequence: the announced length in the head. -/
def beginning (announced : Nat) : Serialization := fun m =>
  match m.pass with
  | .headSize counted => do
    pure { m with pass := .headSize (← add counted Slot.size), isDynamic := true }
  | .head _ => write (countSlot announced) m
  | .tailSize _ | .tail => pure m

/-- Measures the head of a value with a serializer of its own. -/
def computeSize (value : Serialization) : Except Halt Layout := do
  let m ← value ⟨.nowhere, .headSize 0, false, false⟩
  match m.pass with
  | .headSize size => pure ⟨size, m.isDynamic, m.isMarker⟩
  | _ => throw .unreachable

/-- Measures the tail of a value with a serializer of its own. -/
def computeTailSize (value : Serialization) : Except Halt Nat := do
  let m ← value ⟨.nowhere, .tailSize 0, false, false⟩
  match m.pass with
  | .tailSize size => pure size
  | _ => throw .unreachable

/-- Hands the sink over to a serializer of its own for the value, in the given pass. -/
def nested (value : Serialization) (pass : Pass) : Serialization := fun m => do
  let l ← computeSize value
  let inner ← value ⟨m.sink, pass, l.isDynamic, l.isMarker⟩
  pure { m with sink := inner.sink }

/-- The offset that an indirect part leaves in the head: the length of a sequence is not counted. -/
def distance (inSequence : Bool) (offset : Nat) : Except Halt Nat :=
  if inSequence then sub offset Slot.size else pure offset

/-- A part of a tuple, or an element of a sequence. An indirect one leaves an offset in the head,
    and is itself written with the tail. -/
def serializePart (inSequence : Bool) (value : Serialization) : Serialization := fun m => do
  let l ← computeSize value
  match m.pass with
  | .headSize counted =>
    let counted ← add counted (if l.isIndirect then Slot.size else l.headSize)
    pure { m with
      pass := .headSize counted
      isDynamic := m.isDynamic || (!inSequence && (l.isDynamic || l.isMarker)) }
  | .head offset =>
    if l.isIndirect then
      let m ← write (countSlot (← distance inSequence offset)) m
      let next ← add (← add offset l.headSize) (← computeTailSize value)
      pure { m with pass := .head next }
    else
      nested value (.head l.headSize) m
  | .tailSize counted =>
    let size ← computeTailSize value
    let counted ← add (← add counted (if l.isIndirect then l.headSize else 0)) size
    pure { m with pass := .tailSize counted }
  | .tail =>
    if l.isIndirect then
      nested value .tail (← nested value (.head l.headSize) m)
    else
      pure m

mutual

/-- Takes a serializer through a value. -/
def serialize : Value → Serialization
  | .bool b => slot (unsignedSlot .w8 (.ofNat _ b.toNat))
  | .uint w x => slot (unsignedSlot w x)
  | .int w x => slot (signedSlot w x)
  | .text s => text (ofText s)
  | .raw bs => raw bs
  | .marker => marker
  | .tuple parts => serializeParts false parts
  | .seq (some announced) elements => fun m => do
    serializeParts true elements (← beginning announced m)
  | .seq none _ => refuse .missingLength
  | .foreign kind _ => refuse (.notRepresentable kind.name)
  | .pending kind => refuse (.notYetSupported kind.name)
  | .failure message => refuse (.custom message)

/-- Takes a serializer through parts, one after the other. -/
def serializeParts (inSequence : Bool) : List Value → Serialization
  | [] => pure
  | v :: vs => fun m => do serializeParts inSequence vs (← serializePart inSequence (serialize v) m)

end

/-- Measures a value, then writes its head and, if it is dynamic, its tail. A dynamic value on its
    own is preceded by its offset. -/
def serializeTo (withOffset : Bool) (v : Value) (sink : Sink) : Except Halt Sink := do
  let l ← computeSize (serialize v)
  let m : Serializer := ⟨sink, .head l.headSize, l.isDynamic, l.isMarker⟩
  let m ← if l.isDynamic && withOffset then write (countSlot Slot.size) m else pure m
  let m ← serialize v m
  let m ← if l.isDynamic then serialize v { m with pass := .tail } else pure m
  pure m.sink

/-! ## Counting -/

section Counting

variable {m n : Nat}

/-- Sums that fit are sums. -/
theorem add_eq (h : m + n < 2 ^ 64) : add m n = .ok (m + n) := if_pos h

/-- Differences that are not negative are differences. -/
theorem sub_eq (h : n ≤ m) : sub m n = .ok (m - n) := if_pos h

/-- What is left over of the last slot is filled up. -/
theorem padded_eq (h : paddedLength n < 2 ^ 64) : padded n = .ok (paddedLength n) := by
  have whole : n - n % Slot.size + (if n % Slot.size = 0 then 0 else Slot.size) =
      paddedLength n := by
    rw [paddedLength, slotCount, Slot.size]
    split <;> omega
  rw [padded, sub_eq (Nat.mod_le _ _)]
  change add _ _ = _
  rw [add_eq (by rwa [whole]), whole]

/-- Offsets in a sequence are counted from behind the number of elements. -/
theorem distance_eq {inSequence : Bool} {offset : Nat}
    (h : inSequence = true → Slot.size ≤ offset) :
    distance inSequence offset = .ok (if inSequence then offset - Slot.size else offset) := by
  cases inSequence with
  | true => exact sub_eq (h rfl)
  | false => rfl

end Counting

end Serializer

/-! ## Steps that write -/

open Serializer

/-- Between the two passes, the serializer adds the given slots to what is written. -/
def WritesFrom (x : Serialization) (p p' : Pass) (ss : List Slot) : Prop :=
  ∀ written d k, x ⟨.slots written, p, d, k⟩ = .ok ⟨.slots (written ++ ss), p', d, k⟩

/-- Between the two passes, the serializer writes what the computation writes. -/
def Simulates (x : Serialization) (p p' : Pass) (e : Emit Unit) : Prop :=
  ∀ written written' d k, e.run written = (.ok (), written') →
    x ⟨.slots written, p, d, k⟩ = .ok ⟨.slots written', p', d, k⟩

/-- If two computations go through, one after the other, so does each of them. -/
theorem run_seq_eq_ok {e f : Emit Unit} {written written'' : Array Slot}
    (h : (do e; f).run written = (.ok (), written'')) :
    ∃ written', e.run written = (.ok (), written') ∧ f.run written' = (.ok (), written'') := by
  cases he : e.run written with
  | mk result written' =>
    cases result with
    | ok _ =>
      rw [run_seq he] at h
      exact ⟨written', rfl, h⟩
    | error err =>
      rw [ExceptT.run_bind] at h
      change StateT.run (e.run >>= _) written = _ at h
      rw [StateT.run_bind, StateT.run, he] at h
      exact nomatch h

namespace Simulates

variable {x y : Serialization} {p p' p'' : Pass} {e f : Emit Unit} {bs : Bytes}

/-- A step that keeps the serializer as it is writes nothing. -/
theorem nothing (h : ∀ m : Serializer, m.pass = p → x m = .ok m) : Simulates x p p (pure ()) := by
  intro written written' d k run
  obtain rfl : written = written' := congrArg Prod.snd run
  exact h _ rfl

/-- A slot is written in any pass. -/
theorem write (s : Slot) (p : Pass) : Simulates (Serializer.write s) p p (emit s) := by
  intro written written' d k run
  obtain rfl : written.push s = written' := congrArg Prod.snd run
  rfl

/-- Steps one after the other write what computations one after the other do. -/
theorem seq (hx : Simulates x p p' e) (hy : Simulates y p' p'' f) :
    Simulates (fun m => do y (← x m)) p p'' (do e; f) := by
  intro written written'' d k run
  obtain ⟨written', first, second⟩ := run_seq_eq_ok run
  change x _ >>= y = _
  rw [hx _ _ d k first]
  exact hy _ _ d k second

/-- Slots are written in order. -/
theorem writeAll (ss : List Slot) (p : Pass) :
    Simulates (Serializer.writeAll ss) p p (emitAll ss) := by
  induction ss with
  | nil => exact nothing fun _ _ => rfl
  | cons s ss ih => exact (write s p).seq ih

/-- A step that simulates one slot writes that slot. -/
theorem writesFrom_emit {s : Slot} (h : Simulates x p p' (emit s)) : WritesFrom x p p' [s] :=
  fun written d k => h _ _ d k (by simp)

/-- What a serializer writes, if the computation that it follows goes through. -/
theorem exists_writesFrom (h : Simulates x p p' e) (he : Writes e bs) :
    ∃ ss, Slot.flatten ss = bs ∧ WritesFrom x p p' ss := by
  obtain ⟨ss, hss, run⟩ := he
  exact ⟨ss, hss, fun written d k => h _ _ d k (run written)⟩

end Simulates

/-! ## What values do -/

/-- In its four passes, a serializer counts the given sizes and follows the given computations. -/
structure Conforms (x : Serialization) (whole : Layout) (tail : Nat) (head behind : Emit Unit) :
    Prop where
  headSize : ∀ sink n d k, n + whole.headSize < 2 ^ 64 →
    x ⟨sink, .headSize n, d, k⟩ =
      .ok ⟨sink, .headSize (n + whole.headSize), d || whole.isDynamic, k || whole.isMarker⟩
  tailSize : ∀ sink n d k, n + tail < 2 ^ 64 →
    x ⟨sink, .tailSize n, d, k⟩ = .ok ⟨sink, .tailSize (n + tail), d, k⟩
  head : ∃ offset, Simulates x (.head whole.headSize) (.head offset) head
  tail : Simulates x .tail .tail behind

namespace Conforms

section Leaves

/-- Elementary values. -/
theorem slot (s : Slot) : Conforms (slot s) .slot 0 (emit s) (pure ()) where
  headSize sink n d k h := by
    have counted : add n Slot.size = .ok (n + Slot.size) := add_eq h
    simp [Serializer.slot, counted, Layout.slot, bind, Except.bind, pure, Except.pure]
  tailSize _ _ _ _ _ := rfl
  head := ⟨_, .write s _⟩
  tail := .nothing fun m h => by rw [Serializer.slot, h]; rfl

/-- Bytes of any size stand behind their container, with their length in front. -/
theorem text {bs : Bytes} (fits : Slot.size + paddedLength bs.length < 2 ^ 64) :
    Conforms (text bs) ⟨0, true, false⟩ (Slot.size + paddedLength bs.length) (pure ())
      (do emit (countSlot bs.length); emitAll bs.slots) where
  headSize sink n d k h := by
    simp [Serializer.text, pure, Except.pure]
  tailSize sink n d k h := by
    have padded : padded bs.length = .ok (paddedLength bs.length) := padded_eq (by omega)
    simp [Serializer.text, padded, add_eq fits, add_eq h, bind, Except.bind, pure, Except.pure]
  head := ⟨_, .nothing fun m h => by rw [Serializer.text, h]; rfl⟩
  tail := fun written written' d k =>
    Simulates.seq (.write _ _) (.writeAll _ _) written written' d k

/-- Bytes of a fixed size stand in place. -/
theorem raw {bs : Bytes} (fits : paddedLength bs.length < 2 ^ 64) :
    Conforms (raw bs) ⟨paddedLength bs.length, false, false⟩ 0 (emitAll bs.slots) (pure ()) where
  headSize sink n d k h := by
    simp [Serializer.raw, padded_eq fits, add_eq h, bind, Except.bind, pure, Except.pure]
  tailSize _ _ _ _ _ := rfl
  head := ⟨_, .writeAll _ _⟩
  tail := .nothing fun m h => by rw [Serializer.raw, h]; rfl

/-- A marker is seen while sizes are computed, and nothing is written for it. -/
theorem marker : Conforms marker ⟨0, false, true⟩ 0 (pure ()) (pure ()) where
  headSize sink n d k h := by simp [Serializer.marker, pure, Except.pure]
  tailSize _ _ _ _ _ := rfl
  head := ⟨_, .nothing fun m h => by rw [Serializer.marker, h]; rfl⟩
  tail := .nothing fun m h => by rw [Serializer.marker, h]; rfl

end Leaves

/-! ### Parts -/

section Parts

variable {x : Serialization} {l : Layout} {t n offset : Nat} {head behind : Emit Unit}
  {inSequence : Bool} (h : Conforms x l t head behind) (fits : l.headSize + t < 2 ^ 64)

include h fits

/-- The size of a part is computed as its layout says. -/
theorem computeSize_eq : computeSize x = .ok l := by
  have measured := h.headSize .nowhere 0 false false (by omega)
  simp [computeSize, measured, bind, Except.bind, pure, Except.pure]

/-- The size of what a part has behind its container is computed as its measure says. -/
theorem computeTailSize_eq : computeTailSize x = .ok t := by
  have measured := h.tailSize .nowhere 0 false false (by omega)
  simp [computeTailSize, measured, bind, Except.bind, pure, Except.pure]

/-- What a nested serializer writes goes to the sink of the outer one, whatever pass that is in. -/
theorem nested {p p' : Pass} {e : Emit Unit} (hx : Simulates x p p' e) (outer : Pass) :
    Simulates (nested x p) outer outer e := by
  intro written written' d k run
  simp [Serializer.nested, h.computeSize_eq fits, hx _ _ _ _ run, bind, Except.bind, pure,
    Except.pure]

/-- A part adds its share to the heads. A tuple is dynamic if a part is, or is a marker. -/
theorem serializePart_headSize (sink : Sink) (d k : Bool) (hn : n + l.share < 2 ^ 64) :
    serializePart inSequence x ⟨sink, .headSize n, d, k⟩ = .ok
      ⟨sink, .headSize (n + l.share), d || (!inSequence && (l.isDynamic || l.isMarker)), k⟩ := by
  have counted : add n l.share = .ok (n + l.share) := add_eq hn
  rw [Layout.share] at counted
  simp [serializePart, h.computeSize_eq fits, counted, Layout.share, bind, Except.bind, pure,
    Except.pure]

/-- A part adds to the size of the tails what it has there. -/
theorem serializePart_tailSize (direct : l.isIndirect = false → t = 0) (sink : Sink) (d k : Bool)
    (hn : n + l.behind t < 2 ^ 64) :
    serializePart inSequence x ⟨sink, .tailSize n, d, k⟩ =
      .ok ⟨sink, .tailSize (n + l.behind t), d, k⟩ := by
  rw [Layout.behind] at hn ⊢
  cases hl : l.isIndirect with
  | true =>
    rw [hl, if_pos rfl, ← Nat.add_assoc] at hn
    have first : add n l.headSize = .ok (n + l.headSize) := add_eq (by omega)
    simp [serializePart, h.computeSize_eq fits, h.computeTailSize_eq fits, hl, first, add_eq hn,
      bind, Except.bind, pure, Except.pure, Nat.add_assoc]
  | false =>
    rw [hl, if_neg Bool.false_ne_true, Nat.add_zero] at hn
    have first : add n 0 = .ok n := add_eq hn
    simp [serializePart, h.computeSize_eq fits, h.computeTailSize_eq fits, hl, direct hl, first,
      bind, Except.bind, pure, Except.pure]

/-- An indirect part leaves in the head where the next tail begins, and moves that on. -/
theorem serializePart_head_of_indirect (indirect : l.isIndirect = true)
    (counts : inSequence = true → Slot.size ≤ offset) (hn : offset + (l.headSize + t) < 2 ^ 64) :
    Simulates (serializePart inSequence x) (.head offset) (.head (offset + (l.headSize + t)))
      (emit (countSlot (if inSequence then offset - Slot.size else offset))) := by
  intro written written' d k run
  obtain rfl : written.push _ = written' := congrArg Prod.snd run
  have next : add offset l.headSize = .ok (offset + l.headSize) := add_eq (by omega)
  have next' : add (offset + l.headSize) t = .ok (offset + l.headSize + t) := add_eq (by omega)
  simp [serializePart, h.computeSize_eq fits, h.computeTailSize_eq fits, indirect,
    distance_eq counts, next, next', Serializer.write, bind, Except.bind, pure, Except.pure,
    Nat.add_assoc]

/-- A part that is not indirect is written among the heads, and moves no offset. -/
theorem serializePart_head_of_direct (direct : l.isIndirect = false) :
    Simulates (serializePart inSequence x) (.head offset) (.head offset) head := by
  obtain ⟨_, hx⟩ := h.head
  intro written written' d k run
  have := h.nested fits hx (.head offset) written written' d k run
  simpa [serializePart, h.computeSize_eq fits, direct, bind, Except.bind] using this

/-- An indirect part is written as a whole, the head and the tail. -/
theorem serializePart_tail_of_indirect (indirect : l.isIndirect = true) :
    Simulates (serializePart inSequence x) .tail .tail (do head; behind) := by
  obtain ⟨_, hx⟩ := h.head
  intro written written' d k run
  have := (h.nested fits hx .tail).seq (h.nested fits h.tail .tail) written written' d k run
  simpa [serializePart, h.computeSize_eq fits, indirect, bind, Except.bind] using this

/-- A part that is not indirect has nothing among the tails. -/
theorem serializePart_tail_of_direct (direct : l.isIndirect = false) :
    Simulates (serializePart inSequence x) .tail .tail (pure ()) := by
  refine .nothing fun m hm => ?_
  simp [serializePart, h.computeSize_eq fits, direct, hm, bind, Except.bind, pure, Except.pure]

end Parts

end Conforms

/-- In its four passes over parts, a serializer counts the given sizes, and writes what the
    functions write. -/
structure PartsConform (inSequence : Bool) (vs : List Value) (whole : Layout) (tail : Nat) :
    Prop where
  headSize : ∀ sink n d k, n + whole.headSize < 2 ^ 64 →
    serializeParts inSequence vs ⟨sink, .headSize n, d, k⟩ =
      .ok ⟨sink, .headSize (n + whole.headSize), d || (!inSequence && whole.isDynamic), k⟩
  tailSize : ∀ sink n d k, n + tail < 2 ^ 64 →
    serializeParts inSequence vs ⟨sink, .tailSize n, d, k⟩ =
      .ok ⟨sink, .tailSize (n + tail), d, k⟩
  head : ∀ offset, (inSequence = true → Slot.size ≤ offset) → offset + tail < 2 ^ 64 →
    Simulates (serializeParts inSequence vs) (.head offset) (.head (offset + tail))
      (writeHeads inSequence offset vs)
  tail : Simulates (serializeParts inSequence vs) .tail .tail (writeTails vs)

namespace PartsConform

variable {inSequence : Bool} {v : Value} {vs : List Value} {l rest : Layout} {t tails : Nat}

/-- No parts have no size, and nothing is written for them. -/
theorem nil : PartsConform inSequence [] .empty 0 where
  headSize sink n d k _ := by
    simp [serializeParts, Layout.empty, pure, Except.pure]
  tailSize _ _ _ _ _ := rfl
  head offset _ _ := .nothing fun _ _ => rfl
  tail := .nothing fun _ _ => rfl

/-- One more part in front conforms if its size fits along with the others. -/
theorem cons (hv : Measures v l t)
    (conforms : Conforms (serialize v) l t (writeHead l.headSize v) (writeTail v))
    (hvs : PartsConform inSequence vs rest tails)
    (fits : (Layout.cons l rest).headSize + (l.behind t + tails) < 2 ^ 64) :
    PartsConform inSequence (v :: vs) (.cons l rest) (l.behind t + tails) := by
  have small : l.headSize + t < 2 ^ 64 := (hv.le_cons rest).trans_lt (by omega)
  refine ⟨fun sink n d k hn => ?_, fun sink n d k hn => ?_, fun offset counts hn => ?_, ?_⟩
  · rw [Layout.cons, ← Nat.add_assoc] at hn
    rw [serializeParts]
    change serializePart _ _ _ >>= _ = _
    rw [conforms.serializePart_headSize small sink d k (by omega)]
    change serializeParts _ _ _ = _
    rw [hvs.headSize _ _ _ _ hn]
    simp [Layout.cons, Nat.add_assoc, Bool.or_assoc, Bool.and_or_distrib_left]
  · rw [← Nat.add_assoc] at hn
    rw [serializeParts]
    change serializePart _ _ _ >>= _ = _
    rw [conforms.serializePart_tailSize small hv.eq_zero sink d k (by omega)]
    change serializeParts _ _ _ = _
    rw [hvs.tailSize _ _ _ _ hn, Nat.add_assoc]
  · rw [writeHeads, bind_measure hv.layout_eq, serializeParts]
    cases hl : l.isIndirect with
    | true =>
      -- The offset moves on by all of this part, the head and the tail.
      have behind : l.behind t = l.headSize + t := if_pos hl
      rw [behind] at hn ⊢
      rw [if_pos rfl, bind_measure hv.tailSize_eq, Nat.add_assoc offset l.headSize t,
        ← Nat.add_assoc offset (l.headSize + t) tails]
      exact (conforms.serializePart_head_of_indirect small hl counts (by omega)).seq
        (hvs.head (offset + (l.headSize + t))
          (fun h => (counts h).trans (Nat.le_add_right _ _)) (by omega))
    | false =>
      have behind : l.behind t = 0 := if_neg (by rw [hl]; exact Bool.false_ne_true)
      rw [behind, Nat.zero_add] at hn ⊢
      rw [if_neg Bool.false_ne_true]
      exact (conforms.serializePart_head_of_direct small hl).seq (hvs.head _ counts hn)
  · rw [writeTails, bind_measure hv.layout_eq, serializeParts]
    cases hl : l.isIndirect with
    | true =>
      rw [if_pos rfl]
      simpa only [bind_assoc] using (conforms.serializePart_tail_of_indirect small hl).seq hvs.tail
    | false =>
      rw [if_neg Bool.false_ne_true]
      exact (conforms.serializePart_tail_of_direct small hl).seq hvs.tail

end PartsConform

/-! ### Values -/

namespace Conforms

variable {vs : List Value} {whole : Layout} {tail : Nat}

/-- A tuple is nothing but its parts. -/
theorem tuple (marker : whole.isMarker = false) (fits : whole.headSize + tail < 2 ^ 64)
    (h : PartsConform false vs whole tail) :
    Conforms (serialize (.tuple vs)) whole tail (writeHead whole.headSize (.tuple vs))
      (writeTail (.tuple vs)) where
  headSize sink n d k hn := by
    rw [serialize, h.headSize sink n d k hn, marker]
    simp
  tailSize sink n d k hn := by rw [serialize, h.tailSize sink n d k hn]
  head := by
    rw [serialize, writeHead]
    exact ⟨_, h.head _ nofun fits⟩
  tail := by
    rw [serialize, writeTail]
    exact h.tail

/-- A sequence puts the number of its elements in front of them. -/
theorem seq (announced : Nat) (fits : (Layout.sequence whole).headSize + tail < 2 ^ 64)
    (h : PartsConform true vs whole tail) :
    Conforms (serialize (.seq (some announced) vs)) (.sequence whole) tail
      (writeHead (Layout.sequence whole).headSize (.seq (some announced) vs))
      (writeTail (.seq (some announced) vs)) where
  headSize sink n d k hn := by
    rw [Layout.sequence, ← Nat.add_assoc] at hn
    have counted : add n Slot.size = .ok (n + Slot.size) := add_eq (by omega)
    rw [serialize]
    simp [beginning, counted, h.headSize _ _ _ _ hn, Layout.sequence, bind, Except.bind, pure,
      Except.pure, Nat.add_assoc]
  tailSize sink n d k hn := by
    rw [serialize]
    exact h.tailSize sink n d k hn
  head := by
    have counts : Slot.size ≤ (Layout.sequence whole).headSize := Nat.le_add_right _ _
    rw [serialize, writeHead]
    refine ⟨_, Simulates.seq ?_ (h.head _ (fun _ => counts) fits)⟩
    exact fun written written' d k => Simulates.write _ _ written written' d k
  tail := by
    rw [serialize, writeTail]
    exact h.tail

end Conforms

mutual

/-- A serializer measures a value as `layout` and `tailSize` do, and writes what `writeHead` and
    `writeTail` write, if all the bytes can be counted. -/
theorem conforms : (v : Value) → {whole : Layout} → {tail : Nat} → Measures v whole tail →
    whole.headSize + tail < 2 ^ 64 →
    Conforms (serialize v) whole tail (writeHead whole.headSize v) (writeTail v)
  | .bool _, _, _, ⟨rfl, rfl⟩, _ | .uint _ _, _, _, ⟨rfl, rfl⟩, _
  | .int _ _, _, _, ⟨rfl, rfl⟩, _ => .slot _
  | .text _, _, _, ⟨rfl, rfl⟩, fits => .text (by simpa using fits)
  | .raw _, _, _, ⟨rfl, rfl⟩, fits => .raw fits
  | .marker, _, _, ⟨rfl, rfl⟩, _ => .marker
  | .tuple parts, _, _, ⟨hl, ht⟩, fits => by
    have h : MeasuresAll parts _ _ := ⟨hl, ht⟩
    exact .tuple (isMarker_of_layouts hl) fits (partsConform false parts h fits)
  | .seq (some announced) elements, _, _, ⟨hl, ht⟩, fits => by
    obtain ⟨rest, hrest, rfl⟩ := layout_seq_eq_ok hl
    have h : MeasuresAll elements _ _ := ⟨hrest, ht⟩
    rw [Layout.sequence, Nat.add_assoc] at fits
    exact .seq announced (by rwa [Layout.sequence, Nat.add_assoc])
      (partsConform true elements h ((Nat.le_add_left _ _).trans_lt fits))
  | .seq none _, _, _, ⟨h, _⟩, _ | .foreign _ _, _, _, ⟨h, _⟩, _ | .pending _, _, _, ⟨h, _⟩, _
  | .failure _, _, _, ⟨h, _⟩, _ => nomatch h

/-- All parts conform if their sizes fit together. -/
theorem partsConform (inSequence : Bool) : (vs : List Value) → {whole : Layout} → {tail : Nat} →
    MeasuresAll vs whole tail → whole.headSize + tail < 2 ^ 64 →
    PartsConform inSequence vs whole tail
  | [], _, _, ⟨rfl, rfl⟩, _ => .nil
  | v :: vs, _, _, h, fits => by
    obtain ⟨l, t, rest, tails, hv, hvs, rfl, rfl⟩ := h.of_cons
    -- No part is larger than the whole, so that each can be measured on its own.
    have first : l.headSize + t < 2 ^ 64 := (hv.le_cons rest).trans_lt (by omega)
    have added : (Layout.cons l rest).headSize = l.share + rest.headSize := rfl
    have others : rest.headSize + tails < 2 ^ 64 := by omega
    exact .cons hv (conforms v hv first) (partsConform inSequence vs hvs others) fits

end

/-! ## Values as a whole -/

/-- A serializer writes a value just as `write` does. -/
theorem serializeTo_eq {v : Value} {whole : Layout} {tail : Nat} (h : Measures v whole tail)
    (fits : whole.headSize + tail < 2 ^ 64) (withOffset : Bool) {written written' : Array Slot}
    (run : (Abi.write withOffset v).run written = (.ok (), written')) :
    serializeTo withOffset v (.slots written) = .ok (.slots written') := by
  have conform := conforms v h fits
  obtain ⟨_, head⟩ := conform.head
  rw [Abi.write, bind_measure h.layout_eq] at run
  -- A static value is done after its head; a dynamic one has its tail written, and an offset in
  -- front if one is wanted.
  cases hd : whole.isDynamic with
  | false =>
    rw [hd] at run
    obtain ⟨between, first, rest⟩ := run_seq_eq_ok run
    obtain rfl : between = written' := congrArg Prod.snd rest
    simp [serializeTo, conform.computeSize_eq fits, hd, head _ _ _ _ first, bind, Except.bind,
      pure, Except.pure]
  | true =>
    rw [hd] at run
    cases withOffset with
    | true =>
      obtain ⟨start, first, rest⟩ := run_seq_eq_ok run
      obtain ⟨between, second, third⟩ := run_seq_eq_ok rest
      obtain rfl : written.push (countSlot Slot.size) = start := congrArg Prod.snd first
      simp [serializeTo, conform.computeSize_eq fits, hd, Serializer.write, head _ _ _ _ second,
        conform.tail _ _ _ _ third, bind, Except.bind, pure, Except.pure]
    | false =>
      obtain ⟨between, second, third⟩ := run_seq_eq_ok run
      simp [serializeTo, conform.computeSize_eq fits, hd, head _ _ _ _ second,
        conform.tail _ _ _ _ third, bind, Except.bind, pure, Except.pure]

end PaymentChannel.Abi
