import PaymentChannel.Proofs.Bytes.Padding

/-!
# Components of a tuple

A tuple is written as the *heads* of its components followed by their *tails*. A static component
is its own head and has no tail. A dynamic one has its content as tail, and as head the distance of
that tail from the beginning of the tuple.

* `Component.join`: the heads and tails put together;
* `Component.length_content_le`: a tuple is at least as long as each of its components.
-/

namespace PaymentChannel.Abi

open Bytes

/-- A component of a tuple: its encoding, and whether that is placed behind the heads. -/
structure Component where
  isDynamic : Bool
  content : Bytes

namespace Component

/-- What stands among the heads, for a component whose tail has the given distance. -/
def head (distance : Nat) (c : Component) : Bytes :=
  if c.isDynamic then word distance else c.content

/-- What stands behind the heads. -/
def tail (c : Component) : Bytes := if c.isDynamic then c.content else []

/-- The number of bytes of the head. -/
def headSize (c : Component) : Nat := if c.isDynamic then Slot.size else c.content.length

/-- The heads of components, the first tail of which has the given distance. -/
def heads : (distance : Nat) → List Component → Bytes
  | _, [] => []
  | distance, c :: cs => c.head distance ++ heads (distance + c.tail.length) cs

/-- The tails of components. -/
def tails (cs : List Component) : Bytes := cs.flatMap tail

/-- The number of bytes of the heads. -/
def headsSize (cs : List Component) : Nat := (cs.map headSize).sum

/-- The encoding of the tuple of the given components. -/
def join (cs : List Component) : Bytes := heads (headsSize cs) cs ++ tails cs

variable {c : Component} {cs : List Component} {distance : Nat}

theorem head_of_dynamic (h : c.isDynamic = true) : c.head distance = word distance := if_pos h

theorem tail_of_dynamic (h : c.isDynamic = true) : c.tail = c.content := if_pos h

@[simp] theorem tail_of_static (h : c.isDynamic = false) : c.tail = [] := by simp [tail, h]

theorem head_of_static (h : c.isDynamic = false) : c.head distance = c.content := by
  simp [head, h]

@[simp] theorem length_head : (c.head distance).length = c.headSize := by
  rw [head, headSize, apply_ite List.length, length_word]

@[simp] theorem headsSize_nil : headsSize [] = 0 := rfl

@[simp] theorem headsSize_cons : headsSize (c :: cs) = c.headSize + headsSize cs := by
  simp [headsSize]

@[simp] theorem tails_nil : tails [] = [] := rfl

@[simp] theorem tails_cons : tails (c :: cs) = c.tail ++ tails cs := by simp [tails]

@[simp] theorem length_heads : (heads distance cs).length = headsSize cs := by
  induction cs generalizing distance with
  | nil => rfl
  | cons c cs ih => rw [heads, List.length_append, length_head, ih, headsSize_cons]

theorem headsSize_append (cs ds : List Component) :
    headsSize (cs ++ ds) = headsSize cs + headsSize ds := by
  simp [headsSize]

theorem tails_append (cs ds : List Component) : tails (cs ++ ds) = tails cs ++ tails ds :=
  List.flatMap_append

/-- Static components leave nothing behind the heads. -/
theorem tails_of_static (h : cs.any isDynamic = false) : tails cs = [] := by
  rw [tails, List.flatMap_eq_nil_iff]
  intro c hc
  exact tail_of_static (by simpa using List.any_eq_false.1 h c hc)

@[simp] theorem length_join (cs : List Component) :
    (join cs).length = headsSize cs + (tails cs).length := by
  rw [join, List.length_append, length_heads]

/-- A tuple is at least as long as each of its components. -/
theorem length_content_le (h : c ∈ cs) : c.content.length ≤ (join cs).length := by
  obtain ⟨before, after, rfl⟩ := List.append_of_mem h
  rw [length_join, headsSize_append, headsSize_cons, tails_append, List.length_append, tails_cons,
    List.length_append]
  cases hc : c.isDynamic with
  | true =>
    rw [tail_of_dynamic hc]
    omega
  | false =>
    rw [headSize, hc, if_neg Bool.false_ne_true]
    omega

end Component

end PaymentChannel.Abi
