import PaymentChannel.Abi.Digest
import PaymentChannel.Proofs.Abi.Passes

/-!
# What cannot be encoded

Some nodes of a value tree have no encoding (`Value.fault?`). The tree is visited from the root on,
each node before its members and the members in their order; below a node that has no encoding
nothing is visited (`Value.visited`). The first fault on the way is the fault of the tree.

* `Fails x fault`: the computation `x` fails just if there is a fault, and with that one. Measuring
  a value fails like this (`fails_layout`).
* `Encodable v`: all four passes over `v` go through. They do if `v` has no fault
  (`encodable_of_firstFault?`), so the passes that write never fail behind a measure that did not.

Therefore an encoding fails with the first fault of its value, and leaves the sink as it was.
-/

namespace PaymentChannel.Abi

/-! ## Faults -/

namespace Value

/-- Why a node has no encoding, whatever its members are. -/
def fault? : Value → Option Error
  | .seq none _ => some .missingLength
  | .foreign kind _ => some (.notRepresentable kind.name)
  | .pending kind => some (.notYetSupported kind.name)
  | .failure message => some (.custom message)
  | .bool _ | .uint _ _ | .int _ _ | .text _ | .raw _ | .marker | .tuple _ | .seq (some _) _ => none

/-- The nodes right below a node that has an encoding. -/
def members : Value → List Value
  | .tuple parts => parts
  | .seq (some _) elements => elements
  | _ => []

mutual

/-- The nodes of a tree in the order of visits. -/
def visited : Value → List Value
  | .tuple parts => .tuple parts :: visitedAll parts
  | .seq (some announced) elements => .seq (some announced) elements :: visitedAll elements
  | v => [v]

/-- The nodes of several trees, one tree after the other. -/
def visitedAll : List Value → List Value
  | [] => []
  | v :: vs => visited v ++ visitedAll vs

end

/-- The parts of a value are visited one after the other. -/
theorem visitedAll_eq_flatMap (vs : List Value) : visitedAll vs = vs.flatMap visited := by
  induction vs with
  | nil => rfl
  | cons v vs ih => rw [visitedAll, ih, List.flatMap_cons]

/-- A node is visited before its members, and these in their order. -/
theorem visited_eq (v : Value) : v.visited = v :: v.members.flatMap visited := by
  cases v with
  | tuple parts => rw [visited, visitedAll_eq_flatMap, members]
  | seq announced elements =>
    cases announced with
    | none => rfl
    | some announced => rw [visited, visitedAll_eq_flatMap, members]
  | _ => rfl

/-- The error is the fault of a node that is visited, and no node before it has one. -/
def FirstFault (v : Value) (e : Error) : Prop :=
  ∃ before node after, v.visited = before ++ node :: after ∧
    (∀ w ∈ before, w.fault? = none) ∧ node.fault? = some e

/-- The first fault, if there is any. -/
def firstFault? (v : Value) : Option Error := v.visited.findSome? fault?

/-- The first fault in several trees. -/
def firstFaultIn? (vs : List Value) : Option Error := (visitedAll vs).findSome? fault?

/-- The first fault is found by going through the value. -/
theorem firstFault?_eq_some_iff {v : Value} {e : Error} :
    v.firstFault? = some e ↔ v.FirstFault e := by
  rw [firstFault?, List.findSome?_eq_some_iff]
  constructor
  · rintro ⟨before, node, after, h, fault, none⟩
    exact ⟨before, node, after, h, none, fault⟩
  · rintro ⟨before, node, after, h, none, fault⟩
    exact ⟨before, node, after, h, fault, none⟩

/-- There is a first fault just if any node on the way has one. -/
theorem exists_firstFault_iff {v : Value} :
    (∃ e, v.FirstFault e) ↔ ∃ node ∈ v.visited, node.fault? ≠ none := by
  simp only [← firstFault?_eq_some_iff, ← Option.isSome_iff_exists, firstFault?,
    List.isSome_findSome?, List.any_eq_true, Option.isSome_iff_ne_none]

/-- The first part comes before the others. -/
@[simp] theorem firstFaultIn?_cons (v : Value) (vs : List Value) :
    firstFaultIn? (v :: vs) = v.firstFault?.or (firstFaultIn? vs) := by
  rw [firstFaultIn?, visitedAll, List.findSome?_append]
  rfl

/-- A tuple fails only because its parts do. -/
@[simp] theorem firstFault?_tuple (parts : List Value) :
    (Value.tuple parts).firstFault? = firstFaultIn? parts := by
  rw [firstFault?, visited, List.findSome?_cons]
  rfl

/-- A sequence of a known length fails only because its elements do. -/
@[simp] theorem firstFault?_seq (announced : Nat) (elements : List Value) :
    (Value.seq (some announced) elements).firstFault? = firstFaultIn? elements := by
  rw [firstFault?, visited, List.findSome?_cons]
  rfl

end Value

/-! ## Measuring meets the first fault -/

/-- The computation fails if there is a fault, with that fault, and does not fail if there is
    none. -/
def Fails {α : Type} (x : Except Error α) (fault : Option Error) : Prop :=
  ∀ e, x = .error e ↔ fault = some e

namespace Fails

variable {α β : Type} {x : Except Error α} {fault later : Option Error}

theorem pure (a : α) : Fails (pure a) none := fun _ => ⟨nofun, nofun⟩

theorem throw (e : Error) : Fails (throw e : Except Error α) (some e) := fun _ =>
  ⟨fun h => congrArg some (Except.error.inj h), fun h => congrArg Except.error (Option.some.inj h)⟩

/-- Whatever comes first fails first. -/
theorem bind {f : α → Except Error β} (hx : Fails x fault) (hf : ∀ a, Fails (f a) later) :
    Fails (x >>= f) (fault.or later) := by
  intro e
  cases x with
  | error e' =>
    rw [(hx e').mp rfl]
    exact throw e' e
  | ok a =>
    have none : fault = none := Option.eq_none_iff_forall_ne_some.mpr fun e' h =>
      nomatch (hx e').mpr h
    rw [none, Option.none_or]
    exact hf a e

/-- What is made of the result does not matter. -/
theorem map (f : α → β) (h : Fails x fault) : Fails (f <$> x) fault := by
  rw [map_eq_pure_bind, ← Option.or_none (o := fault)]
  exact h.bind fun a => pure (f a)

/-- What has no fault goes through. -/
theorem exists_ok (h : Fails x none) : ∃ a, x = .ok a := by
  cases x with
  | error e => exact nomatch (h e).mp rfl
  | ok a => exact ⟨a, rfl⟩

end Fails

mutual

theorem fails_layout : (v : Value) → Fails (layout v) v.firstFault?
  | .bool _ | .uint _ _ | .int _ _ | .text _ | .raw _ | .marker => .pure _
  | .tuple parts => by
    rw [layout, Value.firstFault?_tuple]
    exact fails_layouts parts
  | .seq (some announced) elements => by
    rw [layout, Value.firstFault?_seq, ← Option.or_none (o := Value.firstFaultIn? elements)]
    exact (fails_layouts elements).bind fun _ => .pure _
  | .seq none _ | .foreign _ _ | .pending _ | .failure _ => .throw _

theorem fails_layouts : (vs : List Value) → Fails (layouts vs) (Value.firstFaultIn? vs)
  | [] => .pure _
  | v :: vs => by
    rw [layouts, Value.firstFaultIn?_cons, ← Option.or_none (o := Value.firstFaultIn? vs)]
    exact (fails_layout v).bind fun _ => (fails_layouts vs).bind fun _ => .pure _

end

/-! ## The other passes go through -/

/-- Every pass over the value goes through. -/
structure Encodable (v : Value) : Prop where
  layout : ∃ whole, layout v = .ok whole
  tailSize : ∃ size, tailSize v = .ok size
  writeHead : ∀ offset, ∃ bs, Writes (writeHead offset v) bs
  writeTail : ∃ bs, Writes (writeTail v) bs

section Members

variable {vs : List Value}

/-- The sizes of the tails of encodable parts can be counted. -/
theorem tailSizes_of_encodable (h : ∀ v ∈ vs, Encodable v) : ∃ size, tailSizes vs = .ok size := by
  induction vs with
  | nil => exact ⟨0, rfl⟩
  | cons v vs ih =>
    obtain ⟨hv, hvs⟩ := List.forall_mem_cons.mp h
    obtain ⟨part, hpart⟩ := hv.layout
    obtain ⟨size, hsize⟩ := hv.tailSize
    obtain ⟨rest, hrest⟩ := ih hvs
    rw [tailSizes, hpart, hsize, hrest]
    exact ⟨_, rfl⟩

/-- The heads of encodable parts can be written. -/
theorem writeHeads_of_encodable (h : ∀ v ∈ vs, Encodable v) (inSequence : Bool) (offset : Nat) :
    ∃ bs, Writes (writeHeads inSequence offset vs) bs := by
  induction vs generalizing offset with
  | nil => exact ⟨[], .nothing⟩
  | cons v vs ih =>
    obtain ⟨hv, hvs⟩ := List.forall_mem_cons.mp h
    obtain ⟨part, hpart⟩ := hv.layout
    rw [writeHeads, bind_measure hpart]
    split
    · obtain ⟨size, hsize⟩ := hv.tailSize
      obtain ⟨rest, hrest⟩ := ih hvs (offset + part.headSize + size)
      rw [bind_measure hsize]
      exact ⟨_, (Writes.emit _).seq hrest⟩
    · obtain ⟨head, hhead⟩ := hv.writeHead part.headSize
      obtain ⟨rest, hrest⟩ := ih hvs offset
      exact ⟨_, hhead.seq hrest⟩

/-- The tails of encodable parts can be written. -/
theorem writeTails_of_encodable (h : ∀ v ∈ vs, Encodable v) : ∃ bs, Writes (writeTails vs) bs := by
  induction vs with
  | nil => exact ⟨[], .nothing⟩
  | cons v vs ih =>
    obtain ⟨hv, hvs⟩ := List.forall_mem_cons.mp h
    obtain ⟨part, hpart⟩ := hv.layout
    obtain ⟨rest, hrest⟩ := ih hvs
    rw [writeTails, bind_measure hpart]
    split
    · obtain ⟨head, hhead⟩ := hv.writeHead part.headSize
      obtain ⟨tail, htail⟩ := hv.writeTail
      exact ⟨_, hhead.seq (htail.seq hrest)⟩
    · exact ⟨_, Writes.nothing.seq hrest⟩

end Members

/-- A value without a fault has a layout. -/
theorem layout_of_firstFault? {v : Value} (h : v.firstFault? = none) :
    ∃ whole, layout v = .ok whole := Fails.exists_ok (h ▸ fails_layout v)

mutual

/-- A value without a fault can be encoded. -/
theorem encodable_of_firstFault? : (v : Value) → v.firstFault? = none → Encodable v
  | .bool _, h | .uint _ _, h | .int _ _, h =>
    ⟨layout_of_firstFault? h, ⟨0, rfl⟩, fun _ => ⟨_, .emit _⟩, ⟨_, .nothing⟩⟩
  | .text _, h =>
    ⟨layout_of_firstFault? h, ⟨_, rfl⟩, fun _ => ⟨_, .nothing⟩,
      ⟨_, (Writes.emit _).seq (.emitAll _)⟩⟩
  | .raw _, h => ⟨layout_of_firstFault? h, ⟨0, rfl⟩, fun _ => ⟨_, .emitAll _⟩, ⟨_, .nothing⟩⟩
  | .marker, h => ⟨layout_of_firstFault? h, ⟨0, rfl⟩, fun _ => ⟨_, .nothing⟩, ⟨_, .nothing⟩⟩
  | .tuple parts, h => by
    have hparts := encodable_of_firstFaultIn? parts (by rwa [Value.firstFault?_tuple] at h)
    refine ⟨layout_of_firstFault? h, ?_, fun offset => ?_, ?_⟩
    · rw [tailSize]
      exact tailSizes_of_encodable hparts
    · rw [writeHead]
      exact writeHeads_of_encodable hparts false offset
    · rw [writeTail]
      exact writeTails_of_encodable hparts
  | .seq (some announced) elements, h => by
    have helements := encodable_of_firstFaultIn? elements (by rwa [Value.firstFault?_seq] at h)
    refine ⟨layout_of_firstFault? h, ?_, fun offset => ?_, ?_⟩
    · rw [tailSize]
      exact tailSizes_of_encodable helements
    · obtain ⟨heads, hheads⟩ := writeHeads_of_encodable helements true offset
      rw [writeHead]
      exact ⟨_, (Writes.emit _).seq hheads⟩
    · rw [writeTail]
      exact writeTails_of_encodable helements
  | .seq none _, h | .foreign _ _, h | .pending _, h | .failure _, h => nomatch h

/-- Parts without a fault can be encoded. -/
theorem encodable_of_firstFaultIn? :
    (vs : List Value) → Value.firstFaultIn? vs = none → ∀ v ∈ vs, Encodable v
  | [], _ => nofun
  | v :: vs, h => by
    rw [Value.firstFaultIn?_cons, Option.or_eq_none_iff] at h
    exact List.forall_mem_cons.mpr
      ⟨encodable_of_firstFault? v h.1, encodable_of_firstFaultIn? vs h.2⟩

end

/-! ## Values as a whole -/

section Whole

variable {v : Value} {e : Error}

/-- The value is measured before anything is written, so a fault leaves the sink alone. -/
theorem run_write_of_firstFault? (h : v.firstFault? = some e) (withOffset : Bool)
    (sink : Array Slot) : (write withOffset v).run sink = (.error e, sink) := by
  -- The layout comes first, and it visits all of the value.
  rw [write, (fails_layout v e).mpr h]
  rfl

/-- An encodable value can be written with an offset or without. -/
theorem Encodable.writes (h : Encodable v) (withOffset : Bool) :
    ∃ bs, Writes (write withOffset v) bs := by
  obtain ⟨whole, hwhole⟩ := h.layout
  obtain ⟨head, hhead⟩ := h.writeHead whole.headSize
  obtain ⟨tail, htail⟩ := h.writeTail
  rw [write, bind_measure hwhole]
  cases whole.isDynamic with
  | true =>
    cases withOffset with
    | true => exact ⟨_, (Writes.emit _).seq (hhead.seq htail)⟩
    | false => exact ⟨_, hhead.seq htail⟩
  | false => exact ⟨_, hhead.seq .nothing⟩

variable (v)

/-- Writing a value fails with its first fault, whatever has been written before. -/
theorem fails_write (withOffset : Bool) (sink : Array Slot) :
    Fails ((write withOffset v).run sink).1 v.firstFault? := by
  cases h : v.firstFault? with
  | some e =>
    rw [run_write_of_firstFault? h]
    exact .throw e
  | none =>
    obtain ⟨_, slots, _, run⟩ := (encodable_of_firstFault? v h).writes withOffset
    rw [run]
    exact .pure ()

/-- The slots are those in the sink at the end, if nothing has failed. -/
theorem Emit.slots_eq_map (e : Emit Unit) :
    e.slots = (fun _ => (e.run #[]).2.toList) <$> (e.run #[]).1 := by
  rw [Emit.slots]
  cases e.run #[] with
  | mk result sink => cases result <;> rfl

/-- The slots of a value fail with its first fault. -/
theorem fails_slots (withOffset : Bool) : Fails (write withOffset v).slots v.firstFault? := by
  rw [Emit.slots_eq_map]
  exact (fails_write v withOffset #[]).map _

/-- The result of an encoding of the value: an error just if a node that is visited has a fault,
    and then the first one. -/
def Value.Governs {α : Type} (result : Except Error α) : Prop :=
  ((∃ e, result = .error e) ↔ ∃ node ∈ v.visited, node.fault? ≠ none) ∧
    ∀ e, result = .error e ↔ v.FirstFault e

variable {v}

/-- What fails with the first fault of a value is governed by it. -/
theorem Fails.governs {α : Type} {result : Except Error α} (h : Fails result v.firstFault?) :
    v.Governs result := by
  have exact (e : Error) : result = .error e ↔ v.FirstFault e :=
    (h e).trans Value.firstFault?_eq_some_iff
  exact ⟨(exists_congr exact).trans Value.exists_firstFault_iff, exact⟩

variable (v)

/-- Every way of encoding a value, on its own or as arguments, fails just if a node of the value
    that is visited has a fault. The error is the first fault on the way, and no slot has been
    written. -/
theorem encoding_governed :
    (∀ sink, v.Governs ((encode v).run sink).1 ∧ v.Governs ((encodeArguments v).run sink).1) ∧
      (v.Governs (encoding v) ∧ v.Governs (digest v)) ∧
      (v.Governs (argumentEncoding v) ∧ v.Governs (argumentBytes v) ∧
        v.Governs (argumentDigest v)) ∧
      ∀ sink e, v.FirstFault e → (encode v).run sink = (.error e, sink) ∧
        (encodeArguments v).run sink = (.error e, sink) := by
  have slots := fails_slots v true
  have argumentBytes : Fails (argumentBytes v) v.firstFault? := (fails_slots v false).map _
  refine ⟨fun sink => ⟨(fails_write v true sink).governs, (fails_write v false sink).governs⟩,
    ⟨slots.governs, (slots.map _).governs⟩,
    ⟨(fails_slots v false).governs, argumentBytes.governs, (argumentBytes.map _).governs⟩, ?_⟩
  intro sink e fault
  have first := Value.firstFault?_eq_some_iff.mpr fault
  exact ⟨run_write_of_firstFault? first true sink, run_write_of_firstFault? first false sink⟩

/-- The length of the sequence and the text in front of it stay unwritten, and what is behind the
    fault does not matter. -/
example :
    (encode (.tuple [.text "node", .seq (some 1) [.pending .character], .seq none []])).run #[] =
      (.error (.notYetSupported "char"), #[]) := rfl

end Whole

end PaymentChannel.Abi
