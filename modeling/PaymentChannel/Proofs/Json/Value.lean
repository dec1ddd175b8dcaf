import PaymentChannel.Proofs.Json.Numeral
import PaymentChannel.Proofs.Json.Text

/-!
# Values of documents

What the values of documents are is a matter of how they are written (`IsValue`): words, numbers,
texts, arrays, and objects, with spaces anywhere between. A value that nobody asks for may be any of
these, and is passed over up to its end (`IsValue.reads_skipValue`, `exists_skipped`). So where a
value ends is settled by what is written (`IsValue.unique`).
-/

namespace PaymentChannel.Json

/-! ## How values are written -/

/-- A value with the spaces around it, as it stands in an array or in a member. -/
structure Cell where
  lead : List Char
  value : List Char
  trail : List Char

/-- A member as it stands in an object: the name between its quotes, and the value. -/
structure Member where
  lead : List Char
  name : List Char
  gap : List Char
  cell : Cell

namespace Cell

/-- A cell as it is written. -/
def chars (c : Cell) : List Char := c.lead ++ (c.value ++ c.trail)

/-- Around the value, there are only spaces. -/
structure Spaced (c : Cell) : Prop where
  lead : Spaces c.lead
  trail : Spaces c.trail

end Cell

namespace Member

/-- A member as it is written. -/
def chars (m : Member) : List Char :=
  m.lead ++ '"' :: (m.name ++ '"' :: (m.gap ++ ':' :: m.cell.chars))

/-- The parts are a name and a cell, with only spaces between. -/
structure Spaced (m : Member) : Prop where
  lead : Spaces m.lead
  gap : Spaces m.gap
  cell : m.cell.Spaced
  name : ∃ ps, Spelling m.name ps

end Member

/-- Texts with commas between, up to the closing character. Before the first of them, there is no
    comma. -/
def listing (close : Char) : (first : Bool) → List (List Char) → List Char
  | _, [] => [close]
  | true, t :: ts => t ++ listing close false ts
  | false, t :: ts => ',' :: (t ++ listing close false ts)

/-- Only what comes first has no comma in front. -/
theorem listing_cons (close : Char) (first : Bool) (t : List Char) (ts : List (List Char)) :
    listing close first (t :: ts) = separator first ++ (t ++ listing close false ts) := by
  cases first <;> rfl

/-- No more texts are listed than there are characters. -/
theorem length_le_listing (close : Char) (first : Bool) (ts : List (List Char)) :
    ts.length ≤ (listing close first ts).length := by
  have later : ∀ ts : List (List Char), ts.length < (listing close false ts).length := by
    intro ts
    induction ts with
    | nil => exact Nat.one_pos
    | cons t ts ih =>
      simp only [listing, List.length_cons, List.length_append]
      omega
  cases ts with
  | nil => exact Nat.zero_le _
  | cons t ts =>
    have := later ts
    simp only [listing_cons, List.length_cons, List.length_append]
    omega

/-- Where there is a value already, the next one follows a comma. -/
theorem listing_false {close : Char} {ts : List (List Char)} (nonempty : ts ≠ []) :
    listing close false ts = ',' :: listing close true ts := by
  cases ts with
  | nil => exact absurd rfl nonempty
  | cons t ts => rfl

/-- An array of cells, with spaces behind its bracket. -/
def arrayText (inside : List Char) (cells : List Cell) : List Char :=
  '[' :: (inside ++ listing ']' true (cells.map Cell.chars))

/-- An object of members, with spaces behind its brace. -/
def objectText (inside : List Char) (members : List Member) : List Char :=
  '{' :: (inside ++ listing '}' true (members.map Member.chars))

/-- The words that are values. -/
def words : List (List Char) := ["null".toList, "true".toList, "false".toList]

/-- A value is written like this. -/
inductive IsValue : List Char → Prop where
  | word {v : List Char} (mem : v ∈ words) : IsValue v
  | number {w : Numeral} {v : List Char} (written : w.WrittenAs v) : IsValue v
  | text {body : List Char} {ps : List Piece} (spelling : Spelling body ps) :
      IsValue ('"' :: (body ++ ['"']))
  | array {inside : List Char} {cells : List Cell} (spaces : Spaces inside)
      (spaced : ∀ c ∈ cells, c.Spaced) (values : ∀ c ∈ cells, IsValue c.value) :
      IsValue (arrayText inside cells)
  | object {inside : List Char} {members : List Member} (spaces : Spaces inside)
      (spaced : ∀ m ∈ members, m.Spaced) (values : ∀ m ∈ members, IsValue m.cell.value) :
      IsValue (objectText inside members)

/-- The cell has a value. -/
structure Cell.WellFormed (c : Cell) : Prop where
  spaced : c.Spaced
  value : IsValue c.value

/-- The member has a value. -/
structure Member.WellFormed (m : Member) : Prop where
  spaced : m.Spaced
  value : IsValue m.cell.value

/-- A natural number is written as a JSON value. -/
theorem WritesNatural.isValue {n : Nat} {v : List Char} (h : WritesNatural n v) : IsValue v := by
  obtain ⟨w, written, -⟩ := h
  exact .number written

/-- A string is written as a JSON value. -/
theorem WritesText.isValue {s : String} {v : List Char} (h : WritesText s v) : IsValue v := by
  obtain ⟨body, rfl, ps, spelling, -⟩ := h
  exact .text spelling

/-- A name that can be read and a value, with spaces between, are a member. -/
theorem Member.wellFormed_mk {lead name gap lead' v trail : List Char} {s : String}
    (leading : Spaces lead) (spells : Spells name s) (between : Spaces gap)
    (leading' : Spaces lead') (value : IsValue v) (trailing : Spaces trail) :
    Member.WellFormed ⟨lead, name, gap, ⟨lead', v, trail⟩⟩ :=
  ⟨⟨leading, between, ⟨leading', trailing⟩, spells.exists_spelling⟩, value⟩

/-! ## Passing over values -/

variable {text rest : List Char}

/-- The characters that end something. -/
def isDelimiter (c : Char) : Bool := isSpace c || c = ',' || c = ']' || c = '}'

/-- A number ends at a delimiter. -/
theorem Ends.of_delimiter {c : Char} (h : isDelimiter c = true) : Ends (c :: rest) := by
  simp only [isDelimiter, isSpace, Bool.or_eq_true, decide_eq_true_eq] at h
  rw [ends_cons]
  obtain (((((rfl | rfl) | rfl) | rfl) | rfl) | rfl) | rfl := h <;> decide

/-- No number starts with a delimiter. -/
theorem isDelimiter_of_startsNumber {c : Char} (h : startsNumber c = true) :
    isDelimiter c = false := by
  rw [← Bool.not_eq_true]
  intro delimits
  simp only [isDelimiter, isSpace, Bool.or_eq_true, decide_eq_true_eq] at delimits
  obtain (((((rfl | rfl) | rfl) | rfl) | rfl) | rfl) | rfl := delimits <;>
    exact Bool.noConfusion h

/-- No value starts with a character that ends one. -/
theorem IsValue.exists_cons {v : List Char} (h : IsValue v) :
    ∃ c cs, v = c :: cs ∧ isDelimiter c = false := by
  cases h with
  | word mem =>
    simp only [words, List.mem_cons, List.not_mem_nil, or_false] at mem
    obtain rfl | rfl | rfl := mem <;> exact ⟨_, _, rfl, rfl⟩
  | text | array | object => exact ⟨_, _, rfl, rfl⟩
  | number written =>
    obtain ⟨c, cs, rfl, first⟩ := written.exists_cons
    exact ⟨c, cs, rfl, isDelimiter_of_startsNumber first⟩

/-- A value does not start with a space, nor with what ends an array. -/
theorem IsValue.stopsAt {v : List Char} (h : IsValue v) (rest : List Char) :
    StopsAt isSpace (v ++ rest) ∧ (v ++ rest).head? ≠ some ']' := by
  obtain ⟨c, cs, rfl, delimits⟩ := h.exists_cons
  simp only [isDelimiter, Bool.or_eq_false_iff, decide_eq_false_iff_not] at delimits
  exact ⟨stopsAt_cons.2 delimits.1.1.1, fun front => delimits.1.2 (Option.some.inj front)⟩

/-- With two steps for each of its characters, the value is passed over: brackets take one step, and
    so does every part between them, besides the steps for its value. -/
def Skippable (v : List Char) : Prop :=
  ∀ {steps : Nat} {sp rest : List Char}, 2 * v.length ≤ steps → Spaces sp → Ends rest →
    Reads (skipValueIn steps) (sp ++ (v ++ rest)) () rest

/-- The words of JSON are skipped. -/
theorem skippable_word {v : List Char} (mem : v ∈ words) : Skippable v := by
  intro steps sp rest enough spaces stop
  simp only [words, List.mem_cons, List.not_mem_nil, or_false] at mem
  obtain _ | steps := steps
  · obtain rfl | rfl | rfl := mem <;> simp at enough
  rw [skipValueIn, reads_skipSpaces_bind]
  obtain rfl | rfl | rfl := mem <;>
    exact ⟨sp, _, rfl, spaces, stopsAt_cons.2 rfl, reads_expect.2 rfl⟩

/-- A number is skipped whatever its size. -/
theorem skippable_number {w : Numeral} {v : List Char} (written : w.WrittenAs v) :
    Skippable v := by
  intro steps sp rest enough spaces stop
  have read : Reads skipNumber (v ++ rest) () rest :=
    reads_skipNumber.2 ⟨w, written.reads stop⟩
  obtain ⟨c, cs, rfl, first⟩ := written.exists_cons
  obtain _ | steps := steps
  · simp at enough
  rw [skipValueIn, reads_skipSpaces_bind]
  refine ⟨sp, _, rfl, spaces, stopsAt_cons.2 (isSpace_of_startsNumber first), ?_⟩
  rw [List.cons_append, List.head?_cons]
  -- A number starts with none of the characters that the other values start with.
  split
  case h_8 front =>
    cases front
    rw [if_pos (show (decide (c = '-') || c.isDigit) = true from first)]
    exact read
  all_goals
    rename_i front
    cases front
  all_goals exact nomatch first

/-- A string is skipped whatever it says. -/
theorem skippable_text {body : List Char} {ps : List Piece} (spelling : Spelling body ps) :
    Skippable ('"' :: (body ++ ['"'])) := by
  intro steps sp rest enough spaces stop
  obtain _ | steps := steps
  · simp at enough
  rw [skipValueIn, reads_skipSpaces_bind]
  refine ⟨sp, _, rfl, spaces, stopsAt_cons.2 rfl, ?_⟩
  refine reads_advance_bind.2 (reads_skipText.2 ⟨body, ps, ?_, spelling⟩)
  simp

/-- What follows in a listing ends the part before. -/
theorem ends_listing {close : Char} (delimits : isDelimiter close = true)
    (ts : List (List Char)) : Ends (listing close false ts ++ rest) := by
  cases ts with
  | nil => exact .of_delimiter delimits
  | cons t ts => exact .of_delimiter rfl

/-- Elements are passed over one after the other, from the value of the first one on. -/
theorem reads_skipElementsIn {c : Cell} {cells : List Cell} {steps : Nat} {sp : List Char}
    (all : ∀ d ∈ c :: cells, d.Spaced ∧ Skippable d.value)
    (enough : 2 * (c.value.length + (listing ']' false (cells.map Cell.chars)).length) ≤ steps)
    (spaces : Spaces sp) :
    Reads (skipElementsIn steps)
      (sp ++ (c.value ++ (c.trail ++ (listing ']' false (cells.map Cell.chars) ++ rest)))) ()
      rest := by
  -- By induction on the elements behind the first one, each of which takes a step at least.
  induction cells generalizing c steps sp with
  | nil =>
    obtain ⟨spaced, skippable⟩ := all c List.mem_cons_self
    obtain _ | steps := steps
    · simp [listing] at enough
    rw [skipElementsIn]
    refine (skippable (by simp [listing] at enough; omega) spaces
      (.of_spaces spaced.trail (ends_listing rfl []))).bind ?_
    exact reads_skipSpaces_bind.2 ⟨c.trail, _, rfl, spaced.trail, stopsAt_cons.2 rfl,
      reads_advance.2 rfl⟩
  | cons d cells ih =>
    obtain ⟨spaced, skippable⟩ := all c List.mem_cons_self
    have behind : ∀ e ∈ d :: cells, e.Spaced ∧ Skippable e.value := fun e he =>
      all e (List.mem_cons_of_mem c he)
    simp only [List.map_cons, listing, Cell.chars, List.length_cons, List.length_append,
      List.cons_append, List.append_assoc] at enough ⊢
    obtain _ | steps := steps
    · simp at enough
    rw [skipElementsIn]
    refine (skippable (by omega) spaces (.of_spaces spaced.trail (.of_delimiter rfl))).bind ?_
    refine reads_skipSpaces_bind.2 ⟨c.trail, _, rfl, spaced.trail, stopsAt_cons.2 rfl, ?_⟩
    exact reads_advance_bind.2 (ih behind (by omega) (behind d List.mem_cons_self).1.lead)

/-- Passes over the value of a member, and what follows it. -/
def skipBehindName (steps : Nat) : Reader Unit := do
  skipValueIn steps
  match ← skipSpaces with
  | some ',' =>
    advance
    skipMembersIn steps
  | some '}' => advance
  | some _ => throw .malformed
  | none => throw .unfinished

/-- A colon, and what is to be read behind it. -/
theorem reads_colon_bind {next : Reader Unit} {u : Unit} :
    Reads (skipSpaces >>= fun c => match c with
      | some ':' => advance >>= fun _ => next
      | some _ => throw .malformed >>= fun (_ : Unit) => next
      | none => throw .unfinished >>= fun (_ : Unit) => next) text u rest ↔
    ∃ gap mid, Spaces gap ∧ text = gap ++ ':' :: mid ∧ Reads next mid u rest := by
  refine reads_char_bind ':' next rfl (fun _ => Iff.rfl) fun o cs ne => ?_
  split
  · exact absurd rfl ne
  all_goals simp [reads_bind]

/-- Members are skipped name by name. -/
theorem reads_skipMembersIn_succ {steps : Nat} {u : Unit} :
    Reads (skipMembersIn (steps + 1)) text u rest ↔ ∃ lead name gap mid,
      text = lead ++ '"' :: (name ++ '"' :: (gap ++ ':' :: mid)) ∧ Spaces lead ∧ Spaces gap ∧
        (∃ ps, Spelling name ps) ∧ Reads (skipBehindName steps) mid u rest := by
  rw [skipMembersIn]
  refine (reads_char_bind '"' (skipText >>= fun _ => _) rfl (fun _ => Iff.rfl) ?_).trans ?_
  · intro o cs ne
    split
    · exact absurd rfl ne
    all_goals simp [reads_bind]
  · constructor
    · rintro ⟨lead, behind, spaces, rfl, h⟩
      obtain ⟨_, _, read, next⟩ := reads_bind.1 h
      obtain ⟨name, ps, rfl, spelling⟩ := reads_skipText.1 read
      obtain ⟨gap, mid, spaces', rfl, last⟩ := reads_colon_bind.1 next
      exact ⟨lead, name, gap, mid, rfl, spaces, spaces', ⟨ps, spelling⟩, last⟩
    · rintro ⟨lead, name, gap, mid, rfl, spaces, spaces', ⟨ps, spelling⟩, h⟩
      exact ⟨lead, _, spaces, rfl, .bind (a := ()) (reads_skipText.2 ⟨name, ps, rfl, spelling⟩)
        (reads_colon_bind.2 ⟨gap, mid, spaces', rfl, h⟩)⟩

/-- Members are passed over one after the other, from the name of the first one on. -/
theorem reads_skipMembersIn {m : Member} {members : List Member} {steps : Nat} {sp : List Char}
    (all : ∀ n ∈ m :: members, n.Spaced ∧ Skippable n.cell.value)
    (enough : 2 * (m.cell.value.length +
      (listing '}' false (members.map Member.chars)).length) ≤ steps)
    (spaces : Spaces sp) :
    Reads (skipMembersIn steps)
      (sp ++ '"' :: (m.name ++ '"' :: (m.gap ++ ':' :: (m.cell.chars ++
        (listing '}' false (members.map Member.chars) ++ rest))))) () rest := by
  -- By induction on the members behind the first one, each of which takes a step at least. The
  -- spaces behind a comma are those in front of the next name.
  induction members generalizing m steps sp with
  | nil =>
    obtain ⟨spaced, skippable⟩ := all m List.mem_cons_self
    obtain _ | steps := steps
    · simp [listing] at enough
    refine reads_skipMembersIn_succ.2
      ⟨sp, m.name, m.gap, _, rfl, spaces, spaced.gap, spaced.name, ?_⟩
    simp only [List.map_nil, listing, Cell.chars, List.append_assoc]
    refine (skippable (by simp [listing] at enough; omega) spaced.cell.lead
      (.of_spaces spaced.cell.trail (.of_delimiter rfl))).bind ?_
    exact reads_skipSpaces_bind.2 ⟨m.cell.trail, _, rfl, spaced.cell.trail, stopsAt_cons.2 rfl,
      reads_advance.2 rfl⟩
  | cons n members ih =>
    obtain ⟨spaced, skippable⟩ := all m List.mem_cons_self
    have behind : ∀ o ∈ n :: members, o.Spaced ∧ Skippable o.cell.value := fun o ho =>
      all o (List.mem_cons_of_mem m ho)
    simp only [List.map_cons, listing, Member.chars, Cell.chars, List.length_cons,
      List.length_append, List.cons_append, List.append_assoc] at enough ih ⊢
    obtain _ | steps := steps
    · simp at enough
    refine reads_skipMembersIn_succ.2
      ⟨sp, m.name, m.gap, _, rfl, spaces, spaced.gap, spaced.name, ?_⟩
    refine (skippable (by omega) spaced.cell.lead
      (.of_spaces spaced.cell.trail (.of_delimiter rfl))).bind ?_
    refine reads_skipSpaces_bind.2 ⟨m.cell.trail, _, rfl, spaced.cell.trail, stopsAt_cons.2 rfl, ?_⟩
    exact reads_advance_bind.2 (ih behind (by omega) (behind n List.mem_cons_self).1.lead)

/-- Any value is skipped if there are enough steps. -/
theorem IsValue.skippable {v : List Char} (h : IsValue v) : Skippable v := by
  induction h with
  | word mem => exact skippable_word mem
  | number written => exact skippable_number written
  | text spelling => exact skippable_text spelling
  | @array inside cells spaces spaced values ih =>
    intro steps sp rest enough spaces' stop
    obtain _ | steps := steps
    · simp [arrayText] at enough
    rw [skipValueIn, reads_skipSpaces_bind]
    refine ⟨sp, _, rfl, spaces', stopsAt_cons.2 rfl, ?_⟩
    refine reads_advance_bind.2 (reads_skipSpaces_bind.2 ?_)
    cases cells with
    | nil =>
      exact ⟨inside, ']' :: rest, by simp [listing], spaces, stopsAt_cons.2 rfl,
        reads_advance.2 rfl⟩
    | cons c cells =>
      -- A value does not start with the closing bracket, so that the array is taken to go on.
      obtain ⟨unspaced, another⟩ := (values c List.mem_cons_self).stopsAt
        (c.trail ++ (listing ']' false (cells.map Cell.chars) ++ rest))
      refine ⟨inside ++ c.lead, _, ?_, spaces.append (spaced c List.mem_cons_self).lead, unspaced,
        ?_⟩
      · simp [listing, Cell.chars]
      · rw [if_neg another]
        refine reads_skipElementsIn (fun d hd => ⟨spaced d hd, ih d hd⟩) ?_ spaces_nil
        simp [arrayText, listing, Cell.chars] at enough
        omega
  | @object inside members spaces spaced values ih =>
    intro steps sp rest enough spaces' stop
    obtain _ | steps := steps
    · simp [objectText] at enough
    rw [skipValueIn, reads_skipSpaces_bind]
    refine ⟨sp, _, rfl, spaces', stopsAt_cons.2 rfl, ?_⟩
    refine reads_advance_bind.2 (reads_skipSpaces_bind.2 ?_)
    cases members with
    | nil =>
      exact ⟨inside, '}' :: rest, by simp [listing], spaces, stopsAt_cons.2 rfl,
        reads_advance.2 rfl⟩
    | cons m members =>
      -- The spaces behind the brace and those before the name are passed over together.
      refine ⟨inside ++ m.lead, '"' :: (m.name ++ '"' :: (m.gap ++ ':' :: (m.cell.chars ++
        (listing '}' false (members.map Member.chars) ++ rest)))), ?_,
        spaces.append (spaced m List.mem_cons_self).lead, stopsAt_cons.2 rfl, ?_⟩
      · simp [listing, Member.chars]
      · rw [if_neg (by simp)]
        refine reads_skipMembersIn (fun n hn => ⟨spaced n hn, ih n hn⟩) ?_ spaces_nil
        simp [objectText, listing, Member.chars, Cell.chars] at enough
        omega

/-- Where something else follows, a value is passed over. -/
theorem IsValue.reads_skipValue {v sp : List Char} (h : IsValue v) (spaces : Spaces sp)
    (stop : Ends rest) : Reads skipValue (sp ++ (v ++ rest)) () rest := by
  rw [skipValue, reads_get_bind]
  refine h.skippable ?_ spaces stop
  simp only [List.length_append]
  omega

/-- A value is known by its characters. -/
theorem IsValue.unique {v v' rest' : List Char} (h : IsValue v) (h' : IsValue v')
    (stop : Ends rest) (stop' : Ends rest') (same : v ++ rest = v' ++ rest') :
    v = v' ∧ rest = rest' := by
  have read := h.reads_skipValue spaces_nil stop
  rw [same] at read
  obtain ⟨-, rfl⟩ := read.unique (h'.reads_skipValue spaces_nil stop')
  exact ⟨List.append_cancel_right same, rfl⟩

/-! ## What is passed over -/

/-- In so many steps, only values are passed over. -/
def SkipsValue (steps : Nat) : Prop :=
  ∀ {text rest : List Char} {u : Unit}, Reads (skipValueIn steps) text u rest →
    ∃ sp v, Spaces sp ∧ text = sp ++ (v ++ rest) ∧ IsValue v

/-- In so many steps, only elements of an array are passed over. -/
def SkipsElements (steps : Nat) : Prop :=
  ∀ {text rest : List Char} {u : Unit}, Reads (skipElementsIn steps) text u rest →
    ∃ cells : List Cell, cells ≠ [] ∧ text = listing ']' true (cells.map Cell.chars) ++ rest ∧
      ∀ c ∈ cells, c.WellFormed

/-- In so many steps, only members of an object are passed over. -/
def SkipsMembers (steps : Nat) : Prop :=
  ∀ {text rest : List Char} {u : Unit}, Reads (skipMembersIn steps) text u rest →
    ∃ members : List Member, members ≠ [] ∧
      text = listing '}' true (members.map Member.chars) ++ rest ∧
      ∀ m ∈ members, m.WellFormed

section Sound

variable {steps : Nat}

/-- One more step skips one more element. -/
theorem SkipsElements.succ (value : SkipsValue steps) (elements : SkipsElements steps) :
    SkipsElements (steps + 1) := by
  intro text rest u h
  rw [skipElementsIn] at h
  -- The spaces behind the value are passed over while looking for what comes next.
  obtain ⟨_, _, read, next⟩ := reads_bind.1 h
  obtain ⟨lead, v, spaces, rfl, isValue⟩ := value read
  obtain ⟨trail, mid, rfl, spaces', -, last⟩ := reads_skipSpaces_bind.1 next
  have spaced : Cell.Spaced ⟨lead, v, trail⟩ := ⟨spaces, spaces'⟩
  split at last
  case h_1 front =>
    obtain ⟨tail, rfl⟩ := List.head?_eq_some_iff.1 front
    obtain ⟨cells, nonempty, rfl, all⟩ := elements (reads_advance_bind.1 last)
    refine ⟨⟨lead, v, trail⟩ :: cells, List.cons_ne_nil _ _, ?_,
      List.forall_mem_cons.2 ⟨⟨spaced, isValue⟩, all⟩⟩
    simp [listing, listing_false, nonempty, Cell.chars]
  case h_2 front =>
    obtain ⟨tail, rfl⟩ := List.head?_eq_some_iff.1 front
    obtain rfl := reads_advance.1 last
    refine ⟨[⟨lead, v, trail⟩], List.cons_ne_nil _ _, ?_,
      List.forall_mem_singleton.2 ⟨spaced, isValue⟩⟩
    simp [listing, Cell.chars]
  case h_3 | h_4 => exact absurd last not_reads_throw

/-- One more step skips one more member. -/
theorem SkipsMembers.succ (value : SkipsValue steps) (members : SkipsMembers steps) :
    SkipsMembers (steps + 1) := by
  intro text rest u h
  obtain ⟨lead, name, gap, _, rfl, spaces, spaces', spelling, behind⟩ :=
    reads_skipMembersIn_succ.1 h
  obtain ⟨_, _, read, next⟩ := reads_bind.1 behind
  obtain ⟨before, v, spacesBefore, rfl, isValue⟩ := value read
  obtain ⟨trail, mid, rfl, spacesBehind, -, last⟩ := reads_skipSpaces_bind.1 next
  have spaced : Member.Spaced ⟨lead, name, gap, ⟨before, v, trail⟩⟩ :=
    ⟨spaces, spaces', ⟨spacesBefore, spacesBehind⟩, spelling⟩
  -- A comma leads on to the other members, and a brace ends the object.
  split at last
  case h_1 front =>
    obtain ⟨tail, rfl⟩ := List.head?_eq_some_iff.1 front
    obtain ⟨others, nonempty, rfl, all⟩ := members (reads_advance_bind.1 last)
    refine ⟨⟨lead, name, gap, ⟨before, v, trail⟩⟩ :: others, List.cons_ne_nil _ _, ?_,
      List.forall_mem_cons.2 ⟨⟨spaced, isValue⟩, all⟩⟩
    simp [listing, listing_false, nonempty, Member.chars, Cell.chars]
  case h_2 front =>
    obtain ⟨tail, rfl⟩ := List.head?_eq_some_iff.1 front
    obtain rfl := reads_advance.1 last
    refine ⟨[⟨lead, name, gap, ⟨before, v, trail⟩⟩], List.cons_ne_nil _ _, ?_,
      List.forall_mem_singleton.2 ⟨spaced, isValue⟩⟩
    simp [listing, Member.chars, Cell.chars]
  case h_3 | h_4 => exact absurd last not_reads_throw

/-- A closing character at once, or something listed before it: a reader that tells them apart
    reads a listing. -/
theorem reads_listing {close : Char} {inner : Reader Unit} {u : Unit}
    (h : Reads (skipSpaces >>= fun c => if c = some close then advance else inner) text u rest) :
    (∃ sp, Spaces sp ∧ text = sp ++ (listing close true [] ++ rest)) ∨
      ∃ sp mid, Spaces sp ∧ text = sp ++ mid ∧ Reads inner mid u rest := by
  obtain ⟨sp, mid, rfl, spaces, -, h⟩ := reads_skipSpaces_bind.1 h
  split at h
  case isTrue front =>
    obtain ⟨tail, rfl⟩ := List.head?_eq_some_iff.1 front
    obtain rfl := reads_advance.1 h
    exact .inl ⟨sp, spaces, rfl⟩
  case isFalse => exact .inr ⟨sp, mid, spaces, rfl, h⟩

/-- One more step skips a value that is nested one level deeper. -/
theorem SkipsValue.succ (elements : SkipsElements steps) (members : SkipsMembers steps) :
    SkipsValue (steps + 1) := by
  intro text rest u h
  rw [skipValueIn, reads_skipSpaces_bind] at h
  obtain ⟨sp, mid, rfl, spaces, -, h⟩ := h
  -- The first character tells what kind of value it is.
  split at h
  case h_1 => exact absurd h not_reads_throw
  case h_2 | h_3 | h_4 =>
    obtain rfl := reads_expect.1 h
    exact ⟨sp, _, spaces, rfl, .word (by simp [words])⟩
  case h_5 front =>
    obtain ⟨tail, rfl⟩ := List.head?_eq_some_iff.1 front
    obtain ⟨body, ps, rfl, spelling⟩ := reads_skipText.1 (reads_advance_bind.1 h)
    exact ⟨sp, _, spaces, by simp, .text spelling⟩
  case h_6 front =>
    obtain ⟨tail, rfl⟩ := List.head?_eq_some_iff.1 front
    obtain ⟨inside, spaces', rfl⟩ | ⟨inside, mid, spaces', rfl, inner⟩ :=
      reads_listing (reads_advance_bind.1 h)
    · refine ⟨sp, arrayText inside [], spaces, ?_, .array spaces' nofun nofun⟩
      simp [arrayText]
    · obtain ⟨cells, -, rfl, all⟩ := elements inner
      refine ⟨sp, arrayText inside cells, spaces, ?_,
        .array spaces' (fun c hc => (all c hc).spaced) fun c hc => (all c hc).value⟩
      simp [arrayText]
  case h_7 front =>
    obtain ⟨tail, rfl⟩ := List.head?_eq_some_iff.1 front
    obtain ⟨inside, spaces', rfl⟩ | ⟨inside, mid, spaces', rfl, inner⟩ :=
      reads_listing (reads_advance_bind.1 h)
    · refine ⟨sp, objectText inside [], spaces, ?_, .object spaces' nofun nofun⟩
      simp [objectText]
    · obtain ⟨ms, -, rfl, all⟩ := members inner
      refine ⟨sp, objectText inside ms, spaces, ?_,
        .object spaces' (fun m hm => (all m hm).spaced) fun m hm => (all m hm).value⟩
      simp [objectText]
  case h_8 =>
    split at h
    · obtain ⟨w, read⟩ := reads_skipNumber.1 h
      obtain ⟨v, rfl, written⟩ := exists_numeral read
      exact ⟨sp, v, spaces, rfl, .number written⟩
    · exact absurd h not_reads_throw

/-- The three readers call each other with one step less. -/
theorem skips (steps : Nat) : SkipsValue steps ∧ SkipsElements steps ∧ SkipsMembers steps := by
  induction steps with
  | zero =>
    refine ⟨?_, ?_, ?_⟩ <;> intro text rest u h
    · simp [skipValueIn] at h
    · simp [skipElementsIn] at h
    · simp [skipMembersIn] at h
  | succ steps ih =>
    obtain ⟨value, elements, members⟩ := ih
    exact ⟨SkipsValue.succ elements members, SkipsElements.succ value elements,
      SkipsMembers.succ value members⟩

end Sound

/-- What is passed over as a value is one. -/
theorem exists_skipped {u : Unit} (h : Reads skipValue text u rest) :
    ∃ sp v, Spaces sp ∧ text = sp ++ (v ++ rest) ∧ IsValue v := by
  rw [skipValue, reads_get_bind] at h
  exact (skips _).1 h

end PaymentChannel.Json
