import PaymentChannel.Proofs.Configuration.Setting
import PaymentChannel.Proofs.Json.Entries

/-!
# Reading configuration documents

The entries of an object give settings, in their order and without those that belong to no field
(`Gives`). These are the settings that are read from the object, if no field is set twice
(`exists_members`, `reads_readMembersIn`). From an array, the settings are read off in the order of
the fields (`reads_readElements`).
-/

namespace PaymentChannel

open Json

/-! ## Entries as settings -/

namespace Json.Entry

/-- The name of the entry is the one of a field. -/
def Sets (e : Entry) (f : Field) : Prop := ∃ key, Spells e.name key ∧ Field.ofKey? key = some f

/-- The name of the entry is the one of no field. -/
def Foreign (e : Entry) : Prop := ∃ key, Spells e.name key ∧ Field.ofKey? key = none

theorem Sets.unique {e : Entry} {f g : Field} (h : e.Sets f) (h' : e.Sets g) : f = g := by
  obtain ⟨key, spells, field⟩ := h
  obtain ⟨key', spells', field'⟩ := h'
  rw [spells.unique spells'] at field
  exact Option.some.inj (field.symm.trans field')

theorem Foreign.not_sets {e : Entry} {f : Field} (h : e.Foreign) : ¬e.Sets f := by
  rintro ⟨key, spells, field⟩
  obtain ⟨key', spells', foreign⟩ := h
  rw [spells.unique spells', foreign] at field
  exact nomatch field

theorem Sets.wellFormed {e : Entry} {f : Field} (h : e.Sets f) (value : IsValue e.value) :
    e.WellFormed := by
  obtain ⟨key, spells, -⟩ := h
  exact ⟨spells.exists_spelling, value⟩

/-- The name of a field is written as it is. -/
theorem sets_key (f : Field) (v : List Char) : Entry.Sets ⟨f.key.toList, v⟩ f := by
  refine ⟨f.key, ?_, Field.ofKey?_key f⟩
  have plain : ∀ c ∈ f.key.toList, c ≠ '"' ∧ c ≠ '\\' ∧ 0x20 ≤ c.toNat := by
    cases f <;> simp [Field.key]
  simpa using spells_plain plain

end Json.Entry

namespace Configuration

/-- The settings that entries give. -/
inductive Gives : List Entry → List Setting → Prop where
  | nil : Gives [] []
  | foreign {e : Entry} {es : List Entry} {ss : List Setting} (foreign : e.Foreign)
      (behind : Gives es ss) : Gives (e :: es) ss
  | setting {e : Entry} {es : List Entry} {s : Setting} {ss : List Setting}
      (sets : e.Sets s.field) (written : s.WrittenAs e.value) (behind : Gives es ss) :
      Gives (e :: es) (s :: ss)

/-! ## Objects -/

variable {text rest : List Char} {before after : List Setting}

/-- Every field is set at most once. -/
def Distinct (ss : List Setting) : Prop := (ss.map Setting.field).Nodup

theorem any_eq_false_iff {f : Field} :
    (before.any fun s => s.field == f) = false ↔ f ∉ before.map Setting.field := by
  rw [List.any_eq_false, List.mem_map]
  constructor
  · rintro h ⟨s, mem, rfl⟩
    exact h s mem (beq_self_eq_true _)
  · intro h s mem same
    exact h ⟨s, mem, beq_iff_eq.1 same⟩

theorem distinct_concat {s : Setting} :
    Distinct (before ++ [s]) ↔ s.field ∉ before.map Setting.field ∧ Distinct before := by
  rw [Distinct, List.map_append, List.map_singleton, ← List.concat_eq_append, List.nodup_concat,
    Distinct]

/-- What is read from an object are the settings that its entries give. -/
theorem exists_members {steps : Nat} {first : Bool}
    (h : Reads (readMembersIn steps first before) text after rest) (distinct : Distinct before) :
    ∃ sp, ∃ ms : List Member, ∃ added, Spaces sp ∧ (∀ m ∈ ms, m.WellFormed) ∧
      text = sp ++ (listing '}' first (ms.map Member.chars) ++ rest) ∧
      after = before ++ added ∧ Gives (ms.map Member.entry) added ∧ Distinct after := by
  induction steps generalizing first before text with
  | zero => exact absurd h not_reads_throw
  | succ steps ih =>
    rw [readMembersIn] at h
    obtain ⟨name, _, read, behindName⟩ := reads_bind.1 h
    cases name with
    | none =>
      -- The spaces before the brace belong to the member before, if there is one.
      obtain ⟨sp, spaces, rfl⟩ := reads_readName_none.1 read
      obtain ⟨rfl, rfl⟩ := reads_pure.1 behindName
      exact ⟨sp, [], [], spaces, nofun, rfl, (List.append_nil _).symm, .nil, distinct⟩
    | some key =>
      obtain ⟨sp, lead, body, spaces, leading, rfl, spells⟩ := reads_readName_some.1 read
      dsimp only at behindName
      cases field : Field.ofKey? key with
      | none =>
        -- The value of an unknown name is passed over.
        rw [field] at behindName
        obtain ⟨_, _, colon, behindColon⟩ := reads_bind.1 behindName
        obtain ⟨gap, spacesGap, rfl⟩ := reads_readColon.1 colon
        obtain ⟨_, _, skipped, behindValue⟩ := reads_bind.1 behindColon
        obtain ⟨lead', v, spacesLead, rfl, isValue⟩ := exists_skipped skipped
        obtain ⟨trail, ms, added, spacesTrail, all, rfl, rfl, gives, once⟩ :=
          ih behindValue distinct
        have wellFormed :=
          Member.wellFormed_mk leading spells spacesGap spacesLead isValue spacesTrail
        refine ⟨sp, ⟨lead, body, gap, ⟨lead', v, trail⟩⟩ :: ms, added, spaces,
          List.forall_mem_cons.2 ⟨wellFormed, all⟩, ?_, rfl, .foreign ⟨key, spells, field⟩ gives,
          once⟩
        simp [listing_cons, Member.chars, Cell.chars]
      | some f =>
        -- The field must not be among those that are set already.
        rw [field] at behindName
        dsimp only at behindName
        split at behindName
        · simp [reads_bind] at behindName
        · rename_i fresh
          obtain ⟨_, _, colon, behindColon⟩ := reads_bind.1 behindName
          obtain ⟨gap, spacesGap, rfl⟩ := reads_readColon.1 colon
          obtain ⟨s, _, value, behindValue⟩ := reads_bind.1 behindColon
          obtain ⟨rfl, lead', v, spacesLead, rfl, written⟩ := exists_setting value
          obtain ⟨trail, ms, added, spacesTrail, all, rfl, rfl, gives, once⟩ :=
            ih behindValue (distinct_concat.2
              ⟨any_eq_false_iff.1 (Bool.not_eq_true _ ▸ fresh), distinct⟩)
          have wellFormed :=
            Member.wellFormed_mk leading spells spacesGap spacesLead written.isValue spacesTrail
          refine ⟨sp, ⟨lead, body, gap, ⟨lead', v, trail⟩⟩ :: ms, s :: added, spaces,
            List.forall_mem_cons.2 ⟨wellFormed, all⟩, ?_, List.append_assoc _ _ _,
            .setting ⟨key, spells, field⟩ written gives, once⟩
          simp [listing_cons, Member.chars, Cell.chars]

/-- The settings that the entries of an object give are read from it. -/
theorem reads_readMembersIn {steps : Nat} {first : Bool} {sp : List Char} {ms : List Member}
    {added : List Setting} (gives : Gives (ms.map Member.entry) added)
    (all : ∀ m ∈ ms, m.WellFormed) (distinct : Distinct (before ++ added))
    (enough : ms.length < steps) (spaces : Spaces sp) :
    Reads (readMembersIn steps first before)
      (sp ++ (listing '}' first (ms.map Member.chars) ++ rest)) (before ++ added) rest := by
  induction ms generalizing steps first sp before added with
  | nil =>
    cases gives
    obtain _ | steps := steps
    · exact absurd enough (Nat.not_lt_zero _)
    rw [readMembersIn, List.append_nil]
    exact Reads.bind (reads_readName_none.2 ⟨sp, spaces, rfl⟩) (reads_pure.2 ⟨rfl, rfl⟩)
  | cons m ms ih =>
    obtain _ | steps := steps
    · exact absurd enough (Nat.not_lt_zero _)
    obtain ⟨⟨spaced, isValue⟩, others⟩ := List.forall_mem_cons.1 all
    have ends : Ends (m.cell.trail ++ (listing '}' false (ms.map Member.chars) ++ rest)) :=
      .of_spaces spaced.cell.trail (ends_listing rfl _)
    have colon : Reads readColon (m.gap ++ ':' :: (m.cell.lead ++ (m.cell.value ++
        (m.cell.trail ++ (listing '}' false (ms.map Member.chars) ++ rest))))) ()
        (m.cell.lead ++ (m.cell.value ++
          (m.cell.trail ++ (listing '}' false (ms.map Member.chars) ++ rest)))) :=
      reads_readColon.2 ⟨m.gap, spaced.gap, rfl⟩
    simp only [List.map_cons, listing_cons, Member.chars, Cell.chars, List.append_assoc,
      List.cons_append]
    rw [readMembersIn]
    cases gives with
    | foreign foreign behind =>
      obtain ⟨key, spells, unknown⟩ := foreign
      refine Reads.bind (reads_readName_some.2 ⟨sp, m.lead, m.name, spaces, spaced.lead, rfl,
        spells⟩) ?_
      dsimp only
      rw [unknown]
      exact colon.bind (Reads.bind (isValue.reads_skipValue spaced.cell.lead ends)
        (ih behind others distinct (Nat.lt_of_succ_lt_succ enough) spaced.cell.trail))
    | @setting _ _ s ss sets written behind =>
      -- As no field is set twice in the end, this one is not set yet.
      obtain ⟨key, spells, field⟩ := sets
      have apart : Distinct ((before ++ [s]) ++ ss) := by rwa [List.append_assoc]
      have fresh : (before.any fun t => t.field == s.field) = false := by
        rw [any_eq_false_iff]
        refine (distinct_concat.1 (?_ : Distinct (before ++ [s]))).1
        exact apart.sublist (by simp)
      refine Reads.bind (reads_readName_some.2 ⟨sp, m.lead, m.name, spaces, spaced.lead, rfl,
        spells⟩) ?_
      dsimp only
      rw [field]
      dsimp only
      rw [if_neg (by simpa using fresh)]
      refine colon.bind (Reads.bind (written.reads spaced.cell.lead ends) ?_)
      rw [List.append_cons before s ss]
      exact ih behind others apart (Nat.lt_of_succ_lt_succ enough) spaced.cell.trail

/-! ## Arrays -/

section Arrays

variable {sp : List Char}

/-- Where there is a value, the separator before it is passed over. -/
theorem reads_readSeparator_next {first : Bool} {lead v : List Char} (isValue : IsValue v)
    (spaces : Spaces sp) (leading : Spaces lead) :
    Reads (readSeparator first) (sp ++ (separator first ++ (lead ++ (v ++ rest)))) .next
      (v ++ rest) := by
  obtain ⟨unspaced, another⟩ := isValue.stopsAt rest
  obtain ⟨c, cs, rfl, -⟩ := isValue.exists_cons
  rw [readSeparator]
  -- In front of the first value there is no comma, and the spaces on both sides of where it would
  -- be are passed over at once.
  cases first with
  | true =>
    refine reads_skipSpaces_bind.2 ⟨sp ++ lead, _, by simp [separator], spaces.append leading,
      unspaced, ?_⟩
    rw [List.cons_append, List.head?_cons] at another ⊢
    split
    case h_1 none => cases none
    case h_2 close => exact absurd close another
    case h_3 => exact reads_pure.2 ⟨rfl, rfl⟩
  | false =>
    refine reads_skipSpaces_bind.2 ⟨sp, _, rfl, spaces, stopsAt_cons.2 rfl, ?_⟩
    refine reads_advance_bind.2 (reads_skipSpaces_bind.2 ⟨lead, _, rfl, leading, unspaced, ?_⟩)
    rw [List.cons_append, List.head?_cons] at another ⊢
    split
    case h_1 close => exact absurd close another
    case h_2 => exact reads_pure.2 ⟨rfl, rfl⟩
    case h_3 none => cases none

theorem reads_readSeparator_close {first : Bool} (spaces : Spaces sp) :
    Reads (readSeparator first) (sp ++ ']' :: rest) .close (']' :: rest) :=
  reads_skipSpaces_bind.2 ⟨sp, _, rfl, spaces, stopsAt_cons.2 rfl, reads_pure.2 ⟨rfl, rfl⟩⟩

/-- Fields at the end of an array may be left out if none of them is required. -/
theorem reads_omitted {fields : List Field} (usual : ∀ f ∈ fields, f.isRequired = false)
    (index : Nat) (spaces : Spaces sp) : ∃ sp', Spaces sp' ∧
      Reads (readElements index fields) (sp ++ ']' :: rest) [] (sp' ++ ']' :: rest) := by
  induction fields generalizing index sp with
  | nil => exact ⟨sp, spaces, reads_pure.2 ⟨rfl, rfl⟩⟩
  | cons f fields ih =>
    obtain ⟨optional, others⟩ := List.forall_mem_cons.1 usual
    obtain ⟨sp', spaces', read⟩ := ih others (index + 1) spaces_nil
    refine ⟨sp', spaces', ?_⟩
    rw [readElements]
    refine (reads_readSeparator_close spaces).bind ?_
    dsimp only
    rw [if_neg (by simpa using optional)]
    exact read

/-- The settings whose values stand in an array are read from it. -/
theorem reads_readElements {ss : List Setting} {cells : List Cell} {omitted : List Field}
    (written : List.Forall₂ (fun s c => s.WrittenAs c.value) ss cells)
    (spaced : ∀ c ∈ cells, c.Spaced) (usual : ∀ f ∈ omitted, f.isRequired = false)
    (index : Nat) (spaces : Spaces sp) : ∃ sp', Spaces sp' ∧
      Reads (readElements index (ss.map Setting.field ++ omitted))
        (sp ++ (listing ']' (index == 0) (cells.map Cell.chars) ++ rest)) ss
        (sp' ++ ']' :: rest) := by
  induction written generalizing index sp with
  | nil => exact reads_omitted usual index spaces
  | @cons s c ss cells value _ ih =>
    obtain ⟨around, others⟩ := List.forall_mem_cons.1 spaced
    obtain ⟨sp', spaces', read⟩ := ih others (index + 1) around.trail
    refine ⟨sp', spaces', ?_⟩
    simp only [List.map_cons, listing_cons, Cell.chars, List.append_assoc, List.cons_append]
    rw [readElements]
    refine (reads_readSeparator_next value.isValue spaces around.lead).bind ?_
    have ends : Ends (c.trail ++ (listing ']' false (cells.map Cell.chars) ++ rest)) :=
      .of_spaces around.trail (ends_listing rfl _)
    exact Reads.bind (value.reads spaces_nil ends) (Reads.bind read (reads_pure.2 ⟨rfl, rfl⟩))

end Arrays

/-! ## Documents -/

variable {ss : List Setting} {c : Configuration}

theorem reads_read :
    Reads read text c rest ↔ ∃ ss, Reads readSettings text ss rest ∧ ofSettings ss = .ok c := by
  rw [read, reads_bind]
  constructor
  · rintro ⟨ss, mid, settings, h⟩
    cases made : ofSettings ss with
    | error fault =>
      rw [made] at h
      exact absurd h not_reads_throw
    | ok d =>
      rw [made] at h
      obtain ⟨rfl, rfl⟩ := reads_pure.1 h
      exact ⟨ss, settings, made⟩
  · rintro ⟨ss, settings, made⟩
    refine ⟨ss, rest, settings, ?_⟩
    rw [made]
    exact reads_pure.2 ⟨rfl, rfl⟩

/-- A text is accepted if there are settings in it, and nothing behind them, that make up a valid
    configuration. -/
theorem parse_eq_ok_iff {text : String} : parse text = .ok c ↔
    (∃ ss after, Reads readSettings text.toList ss after ∧ Spaces after ∧ ofSettings ss = .ok c) ∧
      c.validate = .ok () := by
  have described : ofText text = .ok c ↔ Json.run read text = .ok c := by
    rw [ofText]
    cases Json.run read text with
    | error fault => exact ⟨nofun, nofun⟩
    | ok d =>
      exact ⟨fun h => congrArg Except.ok (Except.ok.inj h),
        fun h => congrArg Except.ok (Except.ok.inj h)⟩
  rw [parse, bind_eq_ok_iff]
  constructor
  · rintro ⟨d, d_eq, h⟩
    obtain ⟨_, valid, ⟨⟩⟩ := bind_eq_ok_iff.1 h
    obtain ⟨after, read, spaces⟩ := run_eq_ok_iff.1 (described.1 d_eq)
    obtain ⟨ss, settings, made⟩ := reads_read.1 read
    exact ⟨⟨ss, after, settings, spaces, made⟩, valid⟩
  · rintro ⟨⟨ss, after, settings, spaces, made⟩, valid⟩
    refine ⟨c, described.2 (run_eq_ok_iff.2 ⟨after, reads_read.2 ⟨ss, settings, made⟩, spaces⟩), ?_⟩
    exact bind_eq_ok_iff.2 ⟨(), valid, rfl⟩

theorem reads_readSettings_brace {sp tail : List Char} (spaces : Spaces sp) :
    Reads readSettings (sp ++ '{' :: tail) ss rest ↔
      Reads (readMembersIn (tail.length + 1) true []) tail ss rest := by
  rw [readSettings, reads_skipSpaces_bind]
  constructor
  · rintro ⟨sp', mid, same, spaces', unspaced, h⟩
    obtain rfl := spaces.unique spaces' (stopsAt_cons.2 rfl) unspaced same
    exact h
  · exact fun h => ⟨sp, _, rfl, spaces, stopsAt_cons.2 rfl, h⟩

/-- An accepted text that starts with a brace is an object with entries that give the settings. -/
theorem exists_entries {text : String} {sp tail : List Char} (spaces : Spaces sp)
    (text_eq : text.toList = sp ++ '{' :: tail) (h : parse text = .ok c) :
    ∃ es ss, HasEntries text es ∧ Gives es ss ∧ Distinct ss ∧ ofSettings ss = .ok c := by
  obtain ⟨⟨ss, after, settings, spacesAfter, made⟩, -⟩ := parse_eq_ok_iff.1 h
  rw [text_eq, reads_readSettings_brace spaces] at settings
  obtain ⟨inside, ms, added, spacesInside, all, rfl, rfl, gives, distinct⟩ :=
    exists_members settings List.nodup_nil
  refine ⟨_, ss, ⟨sp, inside, ms, after, spaces, spacesInside, spacesAfter, all, rfl, ?_⟩,
    gives, distinct, made⟩
  simp [text_eq, objectText]

/-- An object is accepted if its entries give settings that make up a valid configuration. -/
theorem parse_object_iff {text : String} {es : List Entry} (h : HasEntries text es) :
    parse text = .ok c ↔
      (∃ ss, Gives es ss ∧ Distinct ss ∧ ofSettings ss = .ok c) ∧ c.validate = .ok () := by
  obtain ⟨before, inside, ms, after, spacesBefore, spacesInside, spacesAfter, all, rfl,
    text_eq⟩ := h
  constructor
  · intro accepted
    -- The entries that were read are the given ones, as the text has no others.
    refine ⟨?_, (parse_eq_ok_iff.1 accepted).2⟩
    obtain ⟨es, ss, entries, gives, distinct, made⟩ := exists_entries spacesBefore text_eq accepted
    rw [← HasEntries.unique ⟨before, inside, ms, after, spacesBefore, spacesInside, spacesAfter,
      all, rfl, text_eq⟩ entries] at gives
    exact ⟨ss, gives, distinct, made⟩
  · rintro ⟨⟨ss, gives, distinct, made⟩, valid⟩
    refine parse_eq_ok_iff.2 ⟨⟨ss, after, ?_, spacesAfter, made⟩, valid⟩
    have read : Reads (readMembersIn ((inside ++ (listing '}' true (ms.map Member.chars) ++
        after)).length + 1) true []) (inside ++ (listing '}' true (ms.map Member.chars) ++ after))
        ([] ++ ss) after := by
      refine reads_readMembersIn gives all distinct ?_ spacesInside
      have := length_le_listing '}' true (ms.map Member.chars)
      rw [List.length_map] at this
      simp only [List.length_append]
      omega
    rw [text_eq, show before ++ (objectText inside ms ++ after) = before ++ '{' :: (inside ++
      (listing '}' true (ms.map Member.chars) ++ after)) by simp [objectText]]
    exact (reads_readSettings_brace spacesBefore).2 read

/-- An array is accepted if its values are those of settings that make up a valid configuration,
    in the order of the fields. -/
theorem parse_array {text : String} {vs : List (List Char)} {omitted : List Field}
    (h : HasElements text vs) (order : Field.all = ss.map Setting.field ++ omitted)
    (written : List.Forall₂ Setting.WrittenAs ss vs) (usual : ∀ f ∈ omitted, f.isRequired = false)
    (made : ofSettings ss = .ok c) (valid : c.validate = .ok ()) : parse text = .ok c := by
  obtain ⟨before, inside, cells, after, spacesBefore, spacesInside, spacesAfter, all, rfl,
    text_eq⟩ := h
  obtain ⟨sp, spaces, read⟩ : ∃ sp, Spaces sp ∧ Reads (readElements 0 Field.all)
      (inside ++ (listing ']' true (cells.map Cell.chars) ++ after)) ss (sp ++ ']' :: after) := by
    rw [order]
    exact reads_readElements (List.forall₂_map_right_iff.1 written)
      (fun c hc => (all c hc).spaced) usual 0 spacesInside
  refine parse_eq_ok_iff.2 ⟨⟨ss, after, ?_, spacesAfter, made⟩, valid⟩
  rw [text_eq, show before ++ (arrayText inside cells ++ after) = before ++ '[' :: (inside ++
    (listing ']' true (cells.map Cell.chars) ++ after)) by simp [arrayText]]
  refine reads_skipSpaces_bind.2 ⟨before, _, rfl, spacesBefore, stopsAt_cons.2 rfl, ?_⟩
  exact reads_advance_bind.2 (read.bind (Reads.bind (a := ())
    (reads_readClosing.2 ⟨sp, spaces, rfl⟩) (reads_pure.2 ⟨rfl, rfl⟩)))

end Configuration

end PaymentChannel
