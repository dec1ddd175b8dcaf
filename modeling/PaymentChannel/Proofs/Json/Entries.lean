import PaymentChannel.Proofs.Json.Value

/-!
# Documents by their parts

Without its spaces, an object is a list of entries: names and values, as they are written. A text
has only one such list (`HasEntries.unique`), since every name and every value ends where its last
character is. An array is a list of values.
-/

namespace PaymentChannel.Json

/-- A member without the spaces. -/
structure Entry where
  name : List Char
  value : List Char

/-- The member without the spaces. -/
def Member.entry (m : Member) : Entry := ⟨m.name, m.cell.value⟩

/-- The text is an object with the given entries. -/
def HasEntries (text : String) (es : List Entry) : Prop :=
  ∃ before inside members after, Spaces before ∧ Spaces inside ∧ Spaces after ∧
    (∀ m ∈ members, m.WellFormed) ∧ es = members.map Member.entry ∧
      text.toList = before ++ (objectText inside members ++ after)

/-- The text is an array with the given values. -/
def HasElements (text : String) (vs : List (List Char)) : Prop :=
  ∃ before inside cells after, Spaces before ∧ Spaces inside ∧ Spaces after ∧
    (∀ c ∈ cells, c.WellFormed) ∧ vs = cells.map Cell.value ∧
      text.toList = before ++ (arrayText inside cells ++ after)

/-- The entry can stand in an object. -/
structure Entry.WellFormed (e : Entry) : Prop where
  name : ∃ ps, Spelling e.name ps
  value : IsValue e.value

/-- The entry as a member without spaces. -/
def Entry.compact (e : Entry) : Member := ⟨[], e.name, [], ⟨[], e.value, []⟩⟩

/-- The object of the entries, without spaces. -/
def compactObject (es : List Entry) : String := String.ofList (objectText [] (es.map Entry.compact))

theorem hasEntries_compactObject {es : List Entry} (all : ∀ e ∈ es, e.WellFormed) :
    HasEntries (compactObject es) es := by
  refine ⟨[], [], es.map Entry.compact, [], spaces_nil, spaces_nil, spaces_nil,
    List.forall_mem_map.2 fun e he => ?_, ?_, ?_⟩
  · exact ⟨⟨spaces_nil, spaces_nil, ⟨spaces_nil, spaces_nil⟩, (all e he).name⟩, (all e he).value⟩
  · rw [List.map_map]
    exact (List.map_id es).symm
  · rw [compactObject, String.toList_ofList, List.nil_append, List.append_nil]

/-- The array of the values, without spaces. -/
def compactArray (vs : List (List Char)) : String :=
  String.ofList (arrayText [] (vs.map fun v => ⟨[], v, []⟩))

theorem hasElements_compactArray {vs : List (List Char)} (all : ∀ v ∈ vs, IsValue v) :
    HasElements (compactArray vs) vs := by
  refine ⟨[], [], vs.map fun v => ⟨[], v, []⟩, [], spaces_nil, spaces_nil, spaces_nil,
    List.forall_mem_map.2 fun v hv => ⟨⟨spaces_nil, spaces_nil⟩, all v hv⟩, ?_, ?_⟩
  · rw [List.map_map]
    exact (List.map_id vs).symm
  · rw [compactArray, String.toList_ofList, List.nil_append, List.append_nil]

/-! ## There is one list of entries -/

variable {rest rest' : List Char}

section Opening

variable {first : Bool} {sp sp' lead lead' mid mid' : List Char} (spaces : Spaces sp)
  (spaces' : Spaces sp') (leading : Spaces lead)

include spaces spaces' leading

/-- What separates a name from what comes before is passed over in one way. -/
theorem opening_unique (leading' : Spaces lead')
    (same : sp ++ (separator first ++ (lead ++ '"' :: mid)) =
      sp' ++ (separator first ++ (lead' ++ '"' :: mid'))) : mid = mid' := by
  cases first with
  | true =>
    have quoted : '"' :: mid = '"' :: mid' :=
      (spaces.append leading).unique (spaces'.append leading') (stopsAt_cons.2 rfl)
        (stopsAt_cons.2 rfl) (by simpa [separator] using same)
    exact (List.cons.inj quoted).2
  | false =>
    have separated : ',' :: (lead ++ '"' :: mid) = ',' :: (lead' ++ '"' :: mid') :=
      spaces.unique spaces' (stopsAt_cons.2 rfl) (stopsAt_cons.2 rfl) same
    have quoted : '"' :: mid = '"' :: mid' :=
      leading.unique leading' (stopsAt_cons.2 rfl) (stopsAt_cons.2 rfl)
        (List.cons.inj separated).2
    exact (List.cons.inj quoted).2

/-- Where there is another name, the object is not closed. -/
theorem opening_ne_closing :
    sp ++ (separator first ++ (lead ++ '"' :: mid)) ≠ sp' ++ '}' :: mid' := by
  intro same
  cases first with
  | true =>
    have : '"' :: mid = '}' :: mid' :=
      (spaces.append leading).unique spaces' (stopsAt_cons.2 rfl) (stopsAt_cons.2 rfl)
        (by simpa [separator] using same)
    exact absurd (List.cons.inj this).1 (by decide)
  | false =>
    have : ',' :: (lead ++ '"' :: mid) = '}' :: mid' :=
      spaces.unique spaces' (stopsAt_cons.2 rfl) (stopsAt_cons.2 rfl) same
    exact absurd (List.cons.inj this).1 (by decide)

end Opening

/-- The listing of some members is not the one of others, but for the spaces. -/
theorem entries_unique {first : Bool} {sp sp' : List Char} {ms ms' : List Member}
    (all : ∀ m ∈ ms, m.WellFormed) (all' : ∀ m ∈ ms', m.WellFormed) (spaces : Spaces sp)
    (spaces' : Spaces sp')
    (same : sp ++ (listing '}' first (ms.map Member.chars) ++ rest) =
      sp' ++ (listing '}' first (ms'.map Member.chars) ++ rest')) :
    ms.map Member.entry = ms'.map Member.entry ∧ rest = rest' := by
  induction ms generalizing first sp sp' ms' with
  | nil =>
    cases ms' with
    | nil =>
      have closed : '}' :: rest = '}' :: rest' :=
        spaces.unique spaces' (stopsAt_cons.2 rfl) (stopsAt_cons.2 rfl) same
      exact ⟨rfl, (List.cons.inj closed).2⟩
    | cons m' ms' =>
      obtain ⟨spaced', -⟩ := all' m' List.mem_cons_self
      simp only [List.map_cons, listing_cons, Member.chars, List.append_assoc,
        List.cons_append] at same
      exact absurd same.symm (opening_ne_closing spaces' spaces spaced'.lead)
  | cons m ms ih =>
    obtain ⟨spaced, value⟩ := all m List.mem_cons_self
    simp only [List.map_cons, listing_cons, Member.chars, Cell.chars, List.append_assoc,
      List.cons_append] at same ih
    cases ms' with
    | nil => exact absurd same (opening_ne_closing spaces spaces' spaced.lead)
    | cons m' ms' =>
      obtain ⟨spaced', value'⟩ := all' m' List.mem_cons_self
      simp only [List.map_cons, listing_cons, Member.chars, Cell.chars, List.append_assoc,
        List.cons_append] at same
      -- Name, colon and value end where they must, one after the other.
      obtain ⟨ps, spelling⟩ := spaced.name
      obtain ⟨ps', spelling'⟩ := spaced'.name
      obtain ⟨name, -, behindName⟩ :=
        spelling.unique spelling' (opening_unique spaces spaces' spaced.lead spaced'.lead same)
      have colon := spaced.gap.unique spaced'.gap (stopsAt_cons.2 rfl) (stopsAt_cons.2 rfl)
        behindName
      have behindColon := spaced.cell.lead.unique spaced'.cell.lead (value.stopsAt _).1
        (value'.stopsAt _).1 (List.cons.inj colon).2
      obtain ⟨same_value, behind⟩ := value.unique value'
        (.of_spaces spaced.cell.trail (ends_listing rfl _))
        (.of_spaces spaced'.cell.trail (ends_listing rfl _)) behindColon
      obtain ⟨entries, rest_eq⟩ := ih (fun n hn => all n (List.mem_cons_of_mem m hn))
        (fun n hn => all' n (List.mem_cons_of_mem m' hn)) spaced.cell.trail spaced'.cell.trail
        behind
      refine ⟨?_, rest_eq⟩
      rw [List.map_cons, List.map_cons, entries, Member.entry, Member.entry, name, same_value]

theorem HasEntries.unique {text : String} {es es' : List Entry} (h : HasEntries text es)
    (h' : HasEntries text es') : es = es' := by
  obtain ⟨before, inside, ms, after, spacesBefore, spacesInside, -, all, rfl, text_eq⟩ := h
  obtain ⟨before', inside', ms', after', spacesBefore', spacesInside', -, all', rfl, text_eq'⟩ := h'
  have braced := spacesBefore.unique spacesBefore' (stopsAt_cons.2 rfl) (stopsAt_cons.2 rfl)
    (text_eq.symm.trans text_eq')
  have listed : inside ++ (listing '}' true (ms.map Member.chars) ++ after) =
      inside' ++ (listing '}' true (ms'.map Member.chars) ++ after') := by
    simpa [objectText] using braced
  exact (entries_unique all all' spacesInside spacesInside' listed).1

end PaymentChannel.Json
