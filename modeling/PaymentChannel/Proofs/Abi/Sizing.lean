import PaymentChannel.Proofs.Abi.Fault
import PaymentChannel.Proofs.Abi.Serializer

/-!
# Sizes and offsets

What a serializer measures is what it writes: as many bytes in the head and in the tail as have been
counted before, and in front of each indirect part as many as its container says.

* `Sized v l a b`: the passes over `v` count just what they write, which is `a` in the head and `b`
  in the tail (`Measures.exists_sized`);
* `Reference.Holds`: what a container writes in place of an indirect part is the number of bytes
  that come before the part, counted from the beginning of the container or, in a sequence, from its
  first element (`Measures.exists_reference`);
* `Begins v before u after`: references lead from the value `v` to the node `u` within it, and what
  is written for that is in between (`Begins.exists_own`). Every container that has indirect parts
  is reached like this (`Measures.exists_begins`).

Nothing of this depends on the announced length of a sequence, or on markers and bytes being where
they belong. It does depend on the size of the whole, which bounds every sum on the way: if it has
64 bits, so have they.
-/

namespace PaymentChannel.Abi

open Bytes Serializer

namespace WritesFrom

variable {x y : Serialization} {p p' p'' : Pass} {ss ts : List Slot}

/-- Slots are written one after the other. -/
theorem seq (hx : WritesFrom x p p' ss) (hy : WritesFrom y p' p'' ts) :
    WritesFrom (fun m => do y (← x m)) p p'' (ss ++ ts) := by
  intro written d k
  change x _ >>= y = _
  rw [hx written d k]
  change y _ = _
  rw [hy _ d k]
  congr 3
  exact Array.ext' (by simp)

/-- What is written between two passes is determined. -/
theorem unique (hs : WritesFrom x p p' ss) (ht : WritesFrom x p p'' ts) : ss = ts := by
  have same := Except.ok.inj ((hs #[] false false).symm.trans (ht #[] false false))
  have sinks := congrArg Serializer.sink same
  simpa using sinks

end WritesFrom

/-! ## Sizes -/

/-- What is written in between is no longer than all of it. -/
theorem Slot.length_flatten_le (before own after : List Slot) :
    (Slot.flatten own).length ≤ (Slot.flatten (before ++ (own ++ after))).length := by
  simp only [Slot.length_flatten, List.length_append, Nat.add_mul]
  omega

/-- The sizes of a value are exact: while they are computed nothing is written, and just as much is
    written in the other passes. -/
structure Sized (v : Value) (whole : Layout) (inPlace behind : List Slot) : Prop where
  layout_eq : layout v = .ok whole
  tailSize_eq : tailSize v = .ok (behind.length * Slot.size)
  computeSize_eq : computeSize (serialize v) = .ok whole
  computeTailSize_eq : computeTailSize (serialize v) = .ok (behind.length * Slot.size)
  /-- Whatever the sink is, it is left alone. -/
  headSize : ∀ sink n d k, n + whole.headSize < 2 ^ 64 →
    serialize v ⟨sink, .headSize n, d, k⟩ =
      .ok ⟨sink, .headSize (n + whole.headSize), d || whole.isDynamic, k || whole.isMarker⟩
  tailSize : ∀ sink n d k, n + behind.length * Slot.size < 2 ^ 64 →
    serialize v ⟨sink, .tailSize n, d, k⟩ =
      .ok ⟨sink, .tailSize (n + behind.length * Slot.size), d, k⟩
  head : ∃ offset, WritesFrom (serialize v) (.head whole.headSize) (.head offset) inPlace
  headSize_eq : whole.headSize = inPlace.length * Slot.size
  tail : WritesFrom (serialize v) .tail .tail behind
  writeHead : Writes (writeHead whole.headSize v) (Slot.flatten inPlace)
  writeTail : Writes (writeTail v) (Slot.flatten behind)
  run_write : ∀ withOffset written, (write withOffset v).run written =
    (.ok (), written ++ (whole.preamble withOffset ++ (inPlace ++ behind)))
  /-- The serializer does not come to a halt. -/
  serializeTo_eq : ∀ withOffset written, serializeTo withOffset v (.slots written) =
    .ok (.slots (written ++ (whole.preamble withOffset ++ (inPlace ++ behind))))

section Whole

variable {v : Value} {whole : Layout} {tail : Nat} {bs : Bytes} {inPlace behind : List Slot}

/-- A value that is measured within bounds is written in these sizes. -/
theorem Measures.exists_sized (h : Measures v whole tail) (fits : whole.headSize + tail < 2 ^ 64) :
    ∃ inPlace behind, Sized v whole inPlace behind ∧
      argumentBytes v = .ok (Slot.flatten (inPlace ++ behind)) := by
  have conform := conforms v h fits
  obtain ⟨_, _, writeHead, writeTail, headSize, tailSize, bytes⟩ := h.exists_writes
  obtain ⟨_, follows⟩ := conform.head
  obtain ⟨inPlace, rfl, head⟩ := follows.exists_writesFrom writeHead
  obtain ⟨behind, rfl, tail⟩ := conform.tail.exists_writesFrom writeTail
  rw [← Slot.flatten_append] at bytes
  -- The functions are known to write the same bytes; and slots are told apart by their bytes.
  have run_write (withOffset : Bool) (written : Array Slot) : (write withOffset v).run written =
      (.ok (), written ++ (whole.preamble withOffset ++ (inPlace ++ behind))) := by
    obtain ⟨ss, same, run⟩ := h.writes bytes withOffset
    rw [← Slot.flatten_append, Slot.flatten_inj] at same
    rw [run, same]
  rw [Slot.length_flatten] at headSize tailSize
  subst tailSize
  exact ⟨inPlace, behind,
    { layout_eq := h.layout_eq
      tailSize_eq := h.tailSize_eq
      computeSize_eq := conform.computeSize_eq fits
      computeTailSize_eq := conform.computeTailSize_eq fits
      headSize := conform.headSize
      tailSize := conform.tailSize
      head := ⟨_, head⟩
      headSize_eq := headSize.symm
      tail := tail
      writeHead := writeHead
      writeTail := writeTail
      run_write := run_write
      serializeTo_eq := fun withOffset written =>
        Abi.serializeTo_eq h fits withOffset (run_write withOffset written) },
    bytes⟩

/-- What is written for a value, whole. -/
theorem Measures.argumentBytes_eq {offset : Nat} (h : Measures v whole tail)
    (fits : whole.headSize + tail < 2 ^ 64)
    (head : WritesFrom (serialize v) (.head whole.headSize) (.head offset) inPlace)
    (tail_eq : WritesFrom (serialize v) .tail .tail behind) :
    argumentBytes v = .ok (Slot.flatten (inPlace ++ behind)) := by
  obtain ⟨_, _, sized, bytes⟩ := h.exists_sized fits
  obtain ⟨_, head'⟩ := sized.head
  rw [bytes, head'.unique head, sized.tail.unique tail_eq]

end Whole

/-! ## Containers -/

namespace Value

/-- Whether the value is a sequence. -/
def isSequence : Value → Bool
  | .seq _ _ => true
  | _ => false

/-- What a container writes in front of its parts. -/
def lead : Value → List Slot
  | .seq (some announced) _ => [.ofCount announced]
  | _ => []

/-- Whether the value, as a part of a container, is written behind the head of that. -/
def IsIndirect (v : Value) : Prop := ∃ l, layout v = .ok l ∧ l.isIndirect = true

end Value

section Around

variable {inSequence : Bool} {earlier later : List Value} {p : Value} {p₀ p₁ p₂ p₃ : Pass}
  {first middle last : List Slot}

/-- Parts are serialized one after the other. -/
theorem serializeParts_append (inSequence : Bool) (vs ws : List Value) :
    serializeParts inSequence (vs ++ ws) =
      (fun m => do serializeParts inSequence ws (← serializeParts inSequence vs m)) := by
  induction vs with
  | nil =>
    funext m
    exact (pure_bind m _).symm
  | cons v vs ih =>
    funext m
    rw [List.cons_append, serializeParts, serializeParts, ih]
    simp

/-- What is written for parts, if one of them is singled out. -/
theorem WritesFrom.around (h₁ : WritesFrom (serializeParts inSequence earlier) p₀ p₁ first)
    (h₂ : WritesFrom (serializePart inSequence (serialize p)) p₁ p₂ middle)
    (h₃ : WritesFrom (serializeParts inSequence later) p₂ p₃ last) :
    WritesFrom (serializeParts inSequence (earlier ++ p :: later)) p₀ p₃
      (first ++ (middle ++ last)) := by
  rw [serializeParts_append]
  exact h₁.seq (h₂.seq h₃)

end Around

section Container

variable {u : Value} {whole : Layout} {tail : Nat} {ss : List Slot} {p p' : Pass}

/-- A container consists of what is in front of its parts, and these. -/
theorem Measures.exists_members (h : Measures u whole tail) (hm : u.members ≠ []) :
    ∃ parts, MeasuresAll u.members parts tail ∧
      whole.headSize = u.lead.length * Slot.size + parts.headSize ∧
      u.lead.length * Slot.size = if u.isSequence then Slot.size else 0 := by
  cases u with
  | tuple parts => exact ⟨whole, ⟨h.layout_eq, h.tailSize_eq⟩, by simp [Value.lead], rfl⟩
  | seq announced elements =>
    cases announced with
    | none => exact absurd rfl hm
    | some announced =>
      obtain ⟨rest, hrest, rfl⟩ := layout_seq_eq_ok h.layout_eq
      exact ⟨rest, ⟨hrest, h.tailSize_eq⟩, by simp [Value.lead, Layout.sequence], rfl⟩
  | _ => exact absurd rfl hm

/-- A container has its heads behind what it leads with. -/
theorem writesFrom_head (hm : u.members ≠ []) {offset : Nat}
    (h : WritesFrom (serializeParts u.isSequence u.members) (.head offset) p' ss) :
    WritesFrom (serialize u) (.head offset) p' (u.lead ++ ss) := by
  cases u with
  | tuple parts => exact h
  | seq announced elements =>
    cases announced with
    | none => exact absurd rfl hm
    | some announced =>
      have lead : WritesFrom (beginning announced) (.head offset) (.head offset)
        [.ofCount announced] := by
        rw [← countSlot_eq]
        exact fun written d k => rfl
      exact lead.seq h
  | _ => exact absurd rfl hm

/-- A container has the tails of its members, and nothing else behind it. -/
theorem writesFrom_tail (hm : u.members ≠ [])
    (h : WritesFrom (serializeParts u.isSequence u.members) .tail p' ss) :
    WritesFrom (serialize u) .tail p' ss := by
  cases u with
  | tuple parts => exact h
  | seq announced elements =>
    cases announced with
    | none => exact absurd rfl hm
    | some announced => exact h
  | _ => exact absurd rfl hm

end Container

section Parts

variable {vs : List Value} {whole : Layout} {tail : Nat}

/-- The heads of parts take up just the slots that have been counted for them. -/
theorem MeasuresAll.exists_writesFrom_head (h : MeasuresAll vs whole tail)
    (fits : whole.headSize + tail < 2 ^ 64) (inSequence : Bool) {offset : Nat}
    (hn : offset + tail < 2 ^ 64) (counts : inSequence = true → Slot.size ≤ offset) :
    ∃ ss : List Slot, ss.length * Slot.size = whole.headSize ∧
      WritesFrom (serializeParts inSequence vs) (.head offset) (.head (offset + tail)) ss := by
  obtain ⟨bs, written, size⟩ := h.exists_writes_heads counts
  obtain ⟨ss, rfl, writes⟩ :=
    ((partsConform inSequence vs h fits).head offset counts hn).exists_writesFrom written
  exact ⟨ss, by rw [← size, Slot.length_flatten], writes⟩

/-- The tails of parts take up just the slots that have been counted for them. -/
theorem MeasuresAll.exists_writesFrom_tail (h : MeasuresAll vs whole tail)
    (fits : whole.headSize + tail < 2 ^ 64) (inSequence : Bool) :
    ∃ ss : List Slot, ss.length * Slot.size = tail ∧
      WritesFrom (serializeParts inSequence vs) .tail .tail ss := by
  obtain ⟨bs, written, size⟩ := h.exists_writes_tails
  obtain ⟨ss, rfl, writes⟩ :=
    (partsConform inSequence vs h fits).tail.exists_writesFrom written
  exact ⟨ss, by rw [← size, Slot.length_flatten], writes⟩

end Parts

/-! ## Around an indirect part -/

/-- Around an indirect part, the others are measured on their own. -/
theorem MeasuresAll.exists_around {earlier later : List Value} {p : Value} {parts : Layout}
    {tail : Nat} (h : MeasuresAll (earlier ++ p :: later) parts tail) (hp : p.IsIndirect) :
    ∃ first t₁ l t last t₂, MeasuresAll earlier first t₁ ∧ Measures p l t ∧
      MeasuresAll later last t₂ ∧ l.isIndirect = true ∧
      parts.headSize = first.headSize + (Slot.size + last.headSize) ∧
      tail = t₁ + (l.headSize + t + t₂) := by
  obtain ⟨first, t₁, _, _, hearlier, others, heads, rfl⟩ := h.split
  obtain ⟨l, t, last, t₂, hpart, hlater, rfl, rfl⟩ := others.of_cons
  have indirect : l.isIndirect = true := by
    obtain ⟨l', hl', indirect⟩ := hp
    rwa [Except.ok.inj (hpart.layout_eq.symm.trans hl')]
  have share : (Layout.cons l last).headSize = Slot.size + last.headSize := by
    rw [Layout.cons, Layout.share, if_pos indirect]
  have behind : l.behind t = l.headSize + t := if_pos indirect
  exact ⟨first, t₁, l, t, last, t₂, hearlier, hpart, hlater, indirect, share ▸ heads,
    by rw [behind]⟩

section Around

variable {earlier later : List Value} {p : Value} {first l last : Layout} {t₁ t t₂ : Nat}
  (hearlier : MeasuresAll earlier first t₁) (hpart : Measures p l t)
  (hlater : MeasuresAll later last t₂) (indirect : l.isIndirect = true)

include hearlier hpart hlater indirect

/-- The offset of the first tail is moved on by the tails of the parts before. -/
theorem exists_heads_around (inSequence : Bool) {offset : Nat}
    (counts : inSequence = true → Slot.size ≤ offset)
    (heads : first.headSize + last.headSize ≤ offset)
    (fits : offset + (t₁ + (l.headSize + t + t₂)) < 2 ^ 64) :
    ∃ (front back : List Slot) (distance next next' next'' : Nat),
      front.length * Slot.size = first.headSize ∧ back.length * Slot.size = last.headSize ∧
      (if inSequence then Slot.size else 0) + distance = offset + t₁ ∧
      WritesFrom (serializeParts inSequence earlier) (.head offset) (.head next) front ∧
      WritesFrom (serializePart inSequence (serialize p)) (.head next) (.head next')
        [.ofCount distance] ∧
      WritesFrom (serializeParts inSequence later) (.head next') (.head next'') back := by
  have later_le : Slot.size ≤ offset → Slot.size ≤ offset + t₁ + (l.headSize + t) :=
    fun h => by omega
  obtain ⟨front, front_size, front_eq⟩ := hearlier.exists_writesFrom_head (by omega) inSequence
    (show offset + t₁ < 2 ^ 64 by omega) counts
  obtain ⟨back, back_size, back_eq⟩ := hlater.exists_writesFrom_head (by omega) inSequence
    (show offset + t₁ + (l.headSize + t) + t₂ < 2 ^ 64 by omega) fun h => later_le (counts h)
  -- In a sequence, distances count from behind the number of elements, which the offset includes.
  have distance : (if inSequence then Slot.size else 0) +
      (if inSequence then offset + t₁ - Slot.size else offset + t₁) = offset + t₁ := by
    cases inSequence with
    | true => exact Nat.add_sub_cancel' ((counts rfl).trans (Nat.le_add_right _ _))
    | false => exact Nat.zero_add _
  have part_eq : WritesFrom (serializePart inSequence (serialize p)) (.head (offset + t₁))
      (.head (offset + t₁ + (l.headSize + t)))
      [.ofCount (if inSequence then offset + t₁ - Slot.size else offset + t₁)] := by
    rw [← countSlot_eq]
    exact ((conforms p hpart (by omega)).serializePart_head_of_indirect (by omega) indirect
      (fun h => (counts h).trans (Nat.le_add_right _ _)) (by omega)).writesFrom_emit
  exact ⟨front, back, _, _, _, _, front_size, back_size, distance, front_eq, part_eq, back_eq⟩

/-- The part itself is behind the tails of the parts before. -/
theorem exists_tails_around (inSequence : Bool)
    (fits : first.headSize + last.headSize + (t₁ + (l.headSize + t + t₂)) < 2 ^ 64) :
    ∃ gone own rest : List Slot, gone.length * Slot.size = t₁ ∧
      argumentBytes p = .ok (Slot.flatten own) ∧
      WritesFrom (serializeParts inSequence earlier) .tail .tail gone ∧
      WritesFrom (serializePart inSequence (serialize p)) .tail .tail own ∧
      WritesFrom (serializeParts inSequence later) .tail .tail rest := by
  obtain ⟨gone, gone_size, gone_eq⟩ := hearlier.exists_writesFrom_tail (by omega) inSequence
  obtain ⟨rest, -, rest_eq⟩ := hlater.exists_writesFrom_tail (by omega) inSequence
  obtain ⟨_, _, head, tail, -, -, bytes⟩ := hpart.exists_writes
  have follows : Simulates (serializePart inSequence (serialize p)) .tail .tail _ :=
    (conforms p hpart (by omega)).serializePart_tail_of_indirect (by omega) indirect
  obtain ⟨own, own_bytes, own_eq⟩ := follows.exists_writesFrom (head.seq tail)
  rw [← own_bytes] at bytes
  exact ⟨gone, own, rest, gone_size, bytes, gone_eq, own_eq, rest_eq⟩

end Around

/-! ## References -/

/-- How a container refers to one of its parts: what is written for the container, in the head and
    in the tail, around the distance of the part and the part itself. -/
structure Reference where
  container : Value
  earlier : List Value
  part : Value
  later : List Value
  /-- The heads of the parts before. -/
  front : List Slot
  /-- The number of bytes that is written in the head. -/
  distance : Nat
  /-- The heads of the parts behind. -/
  back : List Slot
  /-- The tails of the parts before. -/
  gone : List Slot
  /-- The part itself. -/
  own : List Slot
  /-- The tails of the parts behind. -/
  rest : List Slot

namespace Reference

variable (r : Reference)

/-- What is written of the container in front of the part, from where distances count. -/
def counted : List Slot := r.front ++ .ofCount r.distance :: (r.back ++ r.gone)

/-- What is written of the container in front of the part. -/
def before : List Slot := r.container.lead ++ r.counted

/-- What the passes over the container write around the part, and that the distance is that of the
    part. -/
structure Holds : Prop where
  members_eq : r.container.members = r.earlier ++ r.part :: r.later
  isIndirect : r.part.IsIndirect
  head : ∃ whole offset, computeSize (serialize r.container) = .ok whole ∧
    WritesFrom (serialize r.container) (.head whole.headSize) (.head offset)
      (r.container.lead ++ (r.front ++ .ofCount r.distance :: r.back)) ∧
    ∃ next next', WritesFrom (serializeParts r.container.isSequence r.earlier)
        (.head whole.headSize) (.head next) r.front ∧
      WritesFrom (serializePart r.container.isSequence (serialize r.part)) (.head next)
        (.head next') [.ofCount r.distance]
  tail : WritesFrom (serialize r.container) .tail .tail (r.gone ++ (r.own ++ r.rest))
  gone : WritesFrom (serializeParts r.container.isSequence r.earlier) .tail .tail r.gone
  own : WritesFrom (serializePart r.container.isSequence (serialize r.part)) .tail .tail r.own
  container_eq : argumentBytes r.container = .ok (Slot.flatten (r.before ++ (r.own ++ r.rest)))
  part_eq : argumentBytes r.part = .ok (Slot.flatten r.own)
  /-- As many bytes are written in front of the part, the announced length of a sequence apart. -/
  distance_eq : r.distance = r.counted.length * Slot.size
  distance_lt : r.distance < 2 ^ 64

end Reference

/-- Every container refers to each of its indirect parts. -/
theorem Measures.exists_reference {u p : Value} {earlier later : List Value} {whole : Layout}
    {tail : Nat} (h : Measures u whole tail) (fits : whole.headSize + tail < 2 ^ 64)
    (hm : u.members = earlier ++ p :: later) (hp : p.IsIndirect) :
    ∃ r : Reference, (r.container = u ∧ r.earlier = earlier ∧ r.part = p ∧ r.later = later) ∧
      r.Holds := by
  have some : u.members ≠ [] := by simp [hm]
  obtain ⟨parts, hparts, headSize, lead⟩ := h.exists_members some
  obtain ⟨first, t₁, l, t, last, t₂, hearlier, hpart, hlater, indirect, heads, rfl⟩ :=
    (hm ▸ hparts).exists_around hp
  have slot : Slot.size = 32 := rfl
  have counts : u.isSequence = true → Slot.size ≤ whole.headSize := by omega
  obtain ⟨front, back, distance, next, next', _, front_size, back_size, start, front_eq, part_eq,
    back_eq⟩ :=
    exists_heads_around hearlier hpart hlater indirect u.isSequence counts (by omega) (by omega)
  obtain ⟨gone, own, rest, gone_size, bytes, gone_eq, own_eq, rest_eq⟩ :=
    exists_tails_around hearlier hpart hlater indirect u.isSequence (by omega)
  -- In either pass, the part is between the ones before it and the ones behind.
  have head_eq := writesFrom_head some (hm ▸ front_eq.around part_eq back_eq)
  have tail_eq := writesFrom_tail some (hm ▸ gone_eq.around own_eq rest_eq)
  refine ⟨⟨u, earlier, p, later, front, distance, back, gone, own, rest⟩, ⟨rfl, rfl, rfl, rfl⟩,
    { members_eq := hm
      isIndirect := hp
      head := ⟨whole, _, (conforms u h fits).computeSize_eq fits, head_eq, next, next', front_eq,
        part_eq⟩
      tail := tail_eq
      gone := gone_eq
      own := own_eq
      container_eq := ?_
      part_eq := bytes
      distance_eq := ?_
      distance_lt := ?_ }⟩
  · rw [h.argumentBytes_eq fits head_eq tail_eq]
    simp [Reference.before, Reference.counted]
  · -- What leads is one slot in a sequence and none in a tuple: what distances do not count.
    simp only [Reference.counted, List.length_append, List.length_cons, Nat.add_mul]
    omega
  · change distance < _
    omega

/-! ## Where parts begin -/

/-- In the course of writing the value `v`, the slots `before` have been written when the node `u`
    begins, and `after` are written when it has ended. -/
inductive Begins (v : Value) : (before : List Slot) → (u : Value) → (after : List Slot) → Prop
  | whole : Begins v [] v []
  /-- An indirect part begins where its container refers to. -/
  | part {before after : List Slot} {r : Reference} : Begins v before r.container after →
    r.Holds → Begins v (before ++ r.before) r.part (r.rest ++ after)

/-- Arguments are made up of slots. -/
theorem exists_flatten_of_argumentBytes {v : Value} {bs : Bytes} (h : argumentBytes v = .ok bs) :
    ∃ own, bs = Slot.flatten own := by
  rw [argumentBytes] at h
  cases hv : argumentEncoding v with
  | error e =>
    rw [hv] at h
    cases show Except.error e = .ok bs from h
  | ok own =>
    rw [hv] at h
    exact ⟨own, (Except.ok.inj h).symm⟩

namespace Begins

variable {v u w : Value} {before after before' after' : List Slot} {bs : Bytes}

/-- What begins inside what begins inside a value begins inside that value. -/
theorem trans (h : Begins v before u after) (h' : Begins u before' w after') :
    Begins v (before ++ before') w (after' ++ after) := by
  induction h' with
  | whole => rwa [List.append_nil, List.nil_append]
  | @part before' after' r _ hr ih =>
    rw [← List.append_assoc before, List.append_assoc r.rest]
    exact ih.part hr

/-- Every node that begins is written in its place. -/
theorem exists_own (h : Begins v before u after) (accepted : argumentBytes v = .ok bs) :
    ∃ own, argumentBytes u = .ok (Slot.flatten own) ∧
      Slot.flatten (before ++ (own ++ after)) = bs := by
  induction h with
  | whole =>
    obtain ⟨own, rfl⟩ := exists_flatten_of_argumentBytes accepted
    exact ⟨own, accepted, by simp⟩
  | @part before after r _ hr ih =>
    obtain ⟨own, written, placed⟩ := ih
    refine ⟨r.own, hr.part_eq, ?_⟩
    rw [← placed, Slot.flatten_inj.1 (Except.ok.inj (written.symm.trans hr.container_eq))]
    simp

end Begins

/-! ## Every indirect part begins somewhere -/

namespace Value

/-- Induction on values, with a hypothesis for every member. -/
@[elab_as_elim]
theorem members_induction {motive : Value → Prop}
    (node : ∀ v, (∀ m ∈ v.members, motive m) → motive v) (v : Value) : motive v := by
  have leaf (v : Value) (h : v.members = []) : motive v :=
    node v fun m hm => absurd hm (by simp [h])
  refine @Value.rec motive (fun vs => ∀ m ∈ vs, motive m) (fun _ => leaf _ rfl)
    (fun _ _ => leaf _ rfl) (fun _ _ => leaf _ rfl) (fun _ => leaf _ rfl) (fun _ => leaf _ rfl)
    (leaf _ rfl) (fun parts ih => node _ ih) (fun announced elements ih => ?_)
    (fun _ _ _ => leaf _ rfl) (fun _ => leaf _ rfl) (fun _ => leaf _ rfl)
    (fun _ h => absurd h List.not_mem_nil) (fun v vs hv hvs => List.forall_mem_cons.2 ⟨hv, hvs⟩) v
  cases announced with
  | none => exact leaf _ rfl
  | some _ => exact node _ ih

end Value

section Members

variable {u m v : Value} {vs : List Value} {whole : Layout}

/-- Each of the parts has a layout, which is static if all of them are. -/
theorem exists_layout_of_mem (h : layouts vs = .ok whole) (hv : v ∈ vs) :
    ∃ l, layout v = .ok l ∧ (whole.isDynamic = false → l.isDynamic = false) := by
  induction vs generalizing whole with
  | nil => exact absurd hv List.not_mem_nil
  | cons w vs ih =>
    obtain ⟨part, rest, hw, hvs, rfl⟩ := layouts_cons_eq_ok h
    obtain rfl | hv := List.mem_cons.1 hv
    · exact ⟨part, hw, fun static => by simp_all [Layout.cons]⟩
    · obtain ⟨l, hl, static⟩ := ih hvs hv
      exact ⟨l, hl, fun h => static (by simp_all [Layout.cons])⟩

/-- Members of what can be measured can be measured, and direct parts have no indirect ones. -/
theorem exists_layout_of_mem_members (h : layout u = .ok whole) (hm : m ∈ u.members) :
    ∃ l, layout m = .ok l ∧ (whole.isIndirect = false → l.isIndirect = false) := by
  cases u with
  | tuple parts =>
    rw [layout] at h
    obtain ⟨l, hl, static⟩ := exists_layout_of_mem h hm
    refine ⟨l, hl, fun direct => ?_⟩
    have := isMarker_of_layouts h
    simp_all [Layout.isIndirect]
  | seq announced elements =>
    cases announced with
    | none => exact absurd hm List.not_mem_nil
    | some announced =>
      obtain ⟨rest, hrest, rfl⟩ := layout_seq_eq_ok h
      obtain ⟨l, hl, -⟩ := exists_layout_of_mem hrest hm
      exact ⟨l, hl, fun direct => Bool.noConfusion direct⟩
  | _ => exact absurd hm List.not_mem_nil

/-- In a direct part, nothing is indirect. -/
theorem not_isIndirect_of_visited (h : layout v = .ok whole) (direct : whole.isIndirect = false) :
    ∀ w ∈ v.visited, ¬ w.IsIndirect := by
  induction v using Value.members_induction generalizing whole with
  | node v ih =>
    intro w hw
    rw [Value.visited_eq, List.mem_cons, List.mem_flatMap] at hw
    obtain rfl | ⟨m, hm, hw⟩ := hw
    · rintro ⟨l, hl, indirect⟩
      rw [← Except.ok.inj (h.symm.trans hl), direct] at indirect
      exact Bool.noConfusion indirect
    · obtain ⟨l, hl, static⟩ := exists_layout_of_mem_members h hm
      exact ih m hm hl (static direct) w hw

end Members

/-- Members of nodes are nodes. -/
theorem Value.mem_visited_of_mem_members {v u p : Value} (hu : u ∈ v.visited)
    (hp : p ∈ u.members) : p ∈ v.visited := by
  induction v using Value.members_induction with
  | node v ih =>
    rw [Value.visited_eq, List.mem_cons, List.mem_flatMap] at hu ⊢
    obtain rfl | ⟨m, hm, hu⟩ := hu
    · exact .inr ⟨p, hp, by rw [Value.visited_eq]; exact List.mem_cons_self⟩
    · exact .inr ⟨m, hm, ih m hm hu⟩

/-- A container with indirect parts begins somewhere in what is written, so that these do, too. -/
theorem Measures.exists_begins {v : Value} {whole : Layout} {tail : Nat}
    (h : Measures v whole tail) (fits : whole.headSize + tail < 2 ^ 64) :
    ∀ u ∈ v.visited, ∀ p ∈ u.members, p.IsIndirect → ∃ before after, Begins v before u after := by
  induction v using Value.members_induction generalizing whole tail with
  | node v ih =>
    intro u hu p hp indirect
    rw [Value.visited_eq, List.mem_cons, List.mem_flatMap] at hu
    obtain rfl | ⟨m, hm, hu⟩ := hu
    · exact ⟨[], [], .whole⟩
    obtain ⟨l, hl, -⟩ := exists_layout_of_mem_members h.layout_eq hm
    -- Nothing below a direct member is indirect. An indirect member begins, and what begins within
    -- it (by induction) begins behind what has been written by then.
    cases hd : l.isIndirect with
    | false =>
      exact absurd indirect
        (not_isIndirect_of_visited hl hd p (Value.mem_visited_of_mem_members hu hp))
    | true =>
      obtain ⟨earlier, later, split⟩ := List.append_of_mem hm
      obtain ⟨r, ⟨rfl, -, rfl, -⟩, hr⟩ := h.exists_reference fits split ⟨l, hl, hd⟩
      obtain ⟨t, ht⟩ := exists_measures hl
      have le := Slot.length_flatten_le r.before r.own r.rest
      rw [ht.length_eq hr.part_eq, h.length_eq hr.container_eq] at le
      obtain ⟨before, after, begins⟩ := ih _ hm ht (le.trans_lt fits) u hu p hp indirect
      exact ⟨_, _, (Begins.whole.part hr).trans begins⟩

/-- What is written for a node that begins, and for the nodes below it. -/
structure Placed (v : Value) (bs : Bytes) (before : List Slot) (u : Value) (after : List Slot) :
    Prop where
  /-- The node is written where it begins. -/
  own : ∃ own, argumentBytes u = .ok (Slot.flatten own) ∧
    Slot.flatten (before ++ (own ++ after)) = bs
  /-- An indirect part begins where its container refers to. -/
  indirect : ∀ earlier p later, u.members = earlier ++ p :: later → p.IsIndirect →
    ∃ r : Reference, (r.container = u ∧ r.earlier = earlier ∧ r.part = p ∧ r.later = later) ∧
      r.Holds ∧ Begins v (before ++ r.before) p (r.rest ++ after)
  /-- Nothing is referred to from within a direct part. -/
  direct : ∀ m ∈ u.members, ¬ m.IsIndirect → ∀ w ∈ m.visited, ¬ w.IsIndirect

/-- Wherever a value begins, it stands where the offsets lead to. -/
theorem Begins.placed {v u : Value} {before after : List Slot} {bs : Bytes}
    (h : Begins v before u after) (accepted : argumentBytes v = .ok bs)
    (small : bs.length < 2 ^ 64) : Placed v bs before u after := by
  obtain ⟨own, written, placed⟩ := h.exists_own accepted
  obtain ⟨whole, tail, measured⟩ := exists_measures_of_argumentBytes written
  have fits : whole.headSize + tail < 2 ^ 64 := by
    rw [← measured.length_eq written]
    exact (Slot.length_flatten_le before own after).trans_lt (placed ▸ small)
  refine ⟨⟨own, written, placed⟩, fun earlier p later hm hp => ?_, fun m hm direct => ?_⟩
  · obtain ⟨r, ⟨rfl, rfl, rfl, rfl⟩, hr⟩ := measured.exists_reference fits hm hp
    exact ⟨r, ⟨rfl, rfl, rfl, rfl⟩, hr, h.part hr⟩
  · obtain ⟨l, hl, -⟩ := exists_layout_of_mem_members measured.layout_eq hm
    exact not_isIndirect_of_visited hl
      (Bool.eq_false_iff.2 fun indirect => direct ⟨l, hl, indirect⟩)

/-! ## All values -/

/-- Sizes are exact and offsets are distances for every value that is accepted, whatever lengths it
    announces and wherever there are markers and bytes in it. A serializer counts what it writes,
    writes nothing while it counts, and does not come to a halt; and every indirect part is written
    at the distance that its container gives. -/
theorem sizing_exact {v : Value} {bs : Bytes} (accepted : argumentBytes v = .ok bs)
    (small : bs.length < 2 ^ 64) :
    (∃ whole inPlace behind, Sized v whole inPlace behind ∧
      Slot.flatten (inPlace ++ behind) = bs) ∧
    (∀ before u after, Begins v before u after → Placed v bs before u after) ∧
    ∀ u ∈ v.visited, ∀ p ∈ u.members, p.IsIndirect → ∃ before after, Begins v before u after := by
  obtain ⟨whole, tail, measured⟩ := exists_measures_of_argumentBytes accepted
  have fits : whole.headSize + tail < 2 ^ 64 := measured.length_eq accepted ▸ small
  refine ⟨?_, fun _ _ _ begins => begins.placed accepted small, measured.exists_begins fits⟩
  obtain ⟨inPlace, behind, sized, bytes⟩ := measured.exists_sized fits
  exact ⟨whole, inPlace, behind, sized, Except.ok.inj (bytes.symm.trans accepted)⟩

/-- A tuple with a marker in its midst, and a sequence of three elements that announces seven and
    has bytes and another marker among them. -/
def Value.misplaced : Value :=
  .tuple [.bool true, .marker, .seq (some 7) [.raw [1], .text "ab", .marker]]

/-- The sequence begins two slots from the beginning of the tuple, and the text two slots from the
    first element of the sequence. -/
theorem sizing_exact_misplaced :
    let elements : Value := .seq (some 7) [.raw [1], .text "ab", .marker]
    let bs := Slot.flatten [.ofCount 1, .ofCount 64, .ofCount 7, .startingWith [1], .ofCount 64,
      .ofCount 2, .startingWith (ofText "ab")]
    argumentBytes .misplaced = .ok bs ∧ bs.length < 2 ^ 64 ∧
      (∃ whole inPlace behind, Sized .misplaced whole inPlace behind ∧
        Slot.flatten (inPlace ++ behind) = bs) ∧
      ∃ (before after : List Slot) (r : Reference), Begins .misplaced before elements after ∧
        (r.container = elements ∧ r.part = .text "ab") ∧ r.Holds ∧
          Begins .misplaced (before ++ r.before) (.text "ab") (r.rest ++ after) := by
  intro elements bs
  have accepted : argumentBytes .misplaced = .ok bs := by decide +kernel
  have small : bs.length < 2 ^ 64 := by decide +kernel
  obtain ⟨sized, placed, begins⟩ := sizing_exact accepted small
  have visited : elements ∈ Value.misplaced.visited := by
    simp [Value.misplaced, Value.visited, Value.visitedAll, elements]
  have member : .text "ab" ∈ elements.members := by simp [Value.members, elements]
  have indirect : (Value.text "ab").IsIndirect := ⟨_, rfl, rfl⟩
  obtain ⟨before, after, h⟩ := begins elements visited (.text "ab") member indirect
  obtain ⟨r, ⟨container, -, part, -⟩, holds, begins⟩ :=
    (placed before elements after h).indirect [.raw [1]] (.text "ab") [.marker] rfl indirect
  exact ⟨accepted, small, sized, before, after, r, h, ⟨container, part⟩, holds, begins⟩

end PaymentChannel.Abi
