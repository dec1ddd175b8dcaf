import PaymentChannel.Configuration.Document
import PaymentChannel.Proofs.Client.Checks
import PaymentChannel.Proofs.Json.Value

/-!
# Settings of configurations

A configuration is what its settings say (`Configuration.setting`), no matter how they came
together: each of them is given, or has the usual value (`Configuration.ofSettings_eq_ok_iff`). How
a setting is written in a document depends on its field only (`Setting.WrittenAs`), and that is what
is read (`exists_setting`, `Setting.WrittenAs.reads`).
-/

namespace PaymentChannel

open Json

/-! ## Configurations by their settings -/

/-- What a configuration says about a field. -/
def Configuration.setting (c : Configuration) : Field → Setting
  | .chainId => .chainId c.chainId
  | .custody => .custody c.custody
  | .adjudicator => .adjudicator c.adjudicator
  | .guest => .guest c.guest
  | .challengeDuration => .challengeDuration c.challengeDuration
  | .protocol => .protocol c.protocol
  | .assetLifetime => .assetLifetime c.assetLifetime
  | .nativeSymbol => .nativeSymbol c.nativeSymbol
  | .nativeDecimals => .nativeDecimals c.nativeDecimals

@[simp] theorem Configuration.setting_field (c : Configuration) (f : Field) :
    (c.setting f).field = f := by
  cases f <;> rfl

namespace Field

/-- The usual setting of a field, if there is one. -/
def usual? (f : Field) : Option Setting :=
  if f.isRequired then none else some ((Configuration.standard 0 FixedBytes.zero 0).setting f)

/-- The usual setting of a field is a setting of that field. -/
theorem field_of_usual? {f : Field} {s : Setting} (h : f.usual? = some s) : s.field = f := by
  cases f <;> cases h <;> rfl

theorem mem_all (f : Field) : f ∈ all := by
  cases f <;> decide

/-- What holds of each of the nine fields holds of all fields. -/
theorem forall_iff {P : Field → Prop} : (∀ f, P f) ↔
    P chainId ∧ P custody ∧ P adjudicator ∧ P guest ∧ P challengeDuration ∧ P protocol ∧
      P assetLifetime ∧ P nativeSymbol ∧ P nativeDecimals := by
  refine ⟨fun h => ⟨h _, h _, h _, h _, h _, h _, h _, h _, h _⟩, ?_⟩
  rintro ⟨h₁, h₂, h₃, h₄, h₅, h₆, h₇, h₈, h₉⟩ f
  cases f <;> assumption

end Field

namespace Configuration

/-- What the given settings say about a field. -/
def settingOf? (settings : List Setting) (f : Field) : Option Setting :=
  (settings.find? fun s => s.field == f).or f.usual?

/-- The settings of a field are the given ones, and have the given values. -/
structure Accessor {α : Type} (f : Field) (wrap : α → Setting) (value? : Setting → Option α) :
    Prop where
  value_iff : ∀ s x, value? s = some x ↔ s = wrap x
  field_iff : ∀ s, s.field = f ↔ ∃ x, s = wrap x

namespace Accessor

variable {α : Type} {f : Field} {wrap : α → Setting} {value? : Setting → Option α}
  (accessor : Accessor f wrap value?) {settings : List Setting} {x u : α}

include accessor

/-- The first setting of a field is the first one that has a value for it. -/
theorem find?_eq : settings.find? (fun s => s.field == f) =
    (settings.findSome? value?).map wrap := by
  induction settings with
  | nil => rfl
  | cons s settings ih =>
    rw [List.find?_cons, List.findSome?_cons]
    by_cases same : s.field = f
    · obtain ⟨x, rfl⟩ := (accessor.field_iff s).1 same
      rw [(accessor.value_iff _ x).2 rfl, same, beq_self_eq_true]
      rfl
    · have other : value? s = none := Option.eq_none_iff_forall_ne_some.2 fun x value =>
        same ((accessor.field_iff s).2 ⟨x, (accessor.value_iff s x).1 value⟩)
      rw [other, beq_eq_false_iff_ne.2 same]
      exact ih

/-- Settings of one field are told apart by their values. -/
theorem injective : Function.Injective wrap := fun x y h =>
  Option.some.inj (((accessor.value_iff _ x).2 rfl).symm.trans ((accessor.value_iff _ y).2 h))

/-- A field without a usual setting has what is given. -/
theorem settingOf?_required (required : f.usual? = none) :
    settingOf? settings f = some (wrap x) ↔ settings.findSome? value? = some x := by
  rw [settingOf?, required, Option.or_none, accessor.find?_eq, ← Option.map_some,
    (Option.map_injective accessor.injective).eq_iff]

/-- A field with a usual setting has what is given, or else the usual one. -/
theorem settingOf?_usual (usual : f.usual? = some (wrap u)) :
    settingOf? settings f = some (wrap x) ↔ (settings.findSome? value?).getD u = x := by
  rw [settingOf?, usual, accessor.find?_eq]
  cases settings.findSome? value? with
  | none => simp [accessor.injective.eq_iff]
  | some y => simp [accessor.injective.eq_iff]

end Accessor

/-- The values of each field are found in its own settings. -/
theorem accessor_chainId : Accessor .chainId .chainId Setting.chainId? := by
  constructor <;> intro s <;> cases s <;> simp [Setting.chainId?, Setting.field]

theorem accessor_custody : Accessor .custody .custody Setting.custody? := by
  constructor <;> intro s <;> cases s <;> simp [Setting.custody?, Setting.field]

theorem accessor_adjudicator : Accessor .adjudicator .adjudicator Setting.adjudicator? := by
  constructor <;> intro s <;> cases s <;> simp [Setting.adjudicator?, Setting.field]

theorem accessor_guest : Accessor .guest .guest Setting.guest? := by
  constructor <;> intro s <;> cases s <;> simp [Setting.guest?, Setting.field]

theorem accessor_challengeDuration :
    Accessor .challengeDuration .challengeDuration Setting.challengeDuration? := by
  constructor <;> intro s <;> cases s <;> simp [Setting.challengeDuration?, Setting.field]

theorem accessor_protocol : Accessor .protocol .protocol Setting.protocol? := by
  constructor <;> intro s <;> cases s <;> simp [Setting.protocol?, Setting.field]

theorem accessor_assetLifetime :
    Accessor .assetLifetime .assetLifetime Setting.assetLifetime? := by
  constructor <;> intro s <;> cases s <;> simp [Setting.assetLifetime?, Setting.field]

theorem accessor_nativeSymbol : Accessor .nativeSymbol .nativeSymbol Setting.nativeSymbol? := by
  constructor <;> intro s <;> cases s <;> simp [Setting.nativeSymbol?, Setting.field]

theorem accessor_nativeDecimals :
    Accessor .nativeDecimals .nativeDecimals Setting.nativeDecimals? := by
  constructor <;> intro s <;> cases s <;> simp [Setting.nativeDecimals?, Setting.field]

variable {settings : List Setting} {c : Configuration}

/-- A required field is taken from the first setting that gives it. -/
theorem required_eq_ok_iff {α : Type} {f : Field} {value? : Setting → Option α} {x : α} :
    required settings f value? = .ok x ↔ settings.findSome? value? = some x := by
  rw [required]
  cases settings.findSome? value? with
  | none => exact ⟨nofun, nofun⟩
  | some y => exact ⟨fun h => congrArg some (Except.ok.inj h), fun h => by cases h; rfl⟩

/-- Settings make up the configuration that says the same about every field. -/
theorem ofSettings_eq_ok_iff :
    ofSettings settings = .ok c ↔ ∀ f, settingOf? settings f = some (c.setting f) := by
  -- Either way, this is about nine lookups in the list, three of which must find something.
  rw [Field.forall_iff]
  simp only [setting]
  rw [accessor_chainId.settingOf?_required rfl, accessor_custody.settingOf?_required rfl,
    accessor_adjudicator.settingOf?_usual rfl, accessor_guest.settingOf?_usual rfl,
    accessor_challengeDuration.settingOf?_required rfl, accessor_protocol.settingOf?_usual rfl,
    accessor_assetLifetime.settingOf?_usual rfl, accessor_nativeSymbol.settingOf?_usual rfl,
    accessor_nativeDecimals.settingOf?_usual rfl]
  constructor
  · intro h
    rw [ofSettings] at h
    obtain ⟨chainId, chain, h⟩ := bind_eq_ok_iff.1 h
    obtain ⟨custody, custodian, h⟩ := bind_eq_ok_iff.1 h
    obtain ⟨duration, lasts, h⟩ := bind_eq_ok_iff.1 h
    cases h
    rw [required_eq_ok_iff] at chain custodian lasts
    exact ⟨chain, custodian, rfl, rfl, lasts, rfl, rfl, rfl, rfl⟩
  · cases c
    rintro ⟨chain, custodian, rfl, rfl, lasts, rfl, rfl, rfl, rfl⟩
    rw [← required_eq_ok_iff (f := .chainId)] at chain
    rw [← required_eq_ok_iff (f := .custody)] at custodian
    rw [← required_eq_ok_iff (f := .challengeDuration)] at lasts
    rw [ofSettings, chain, custodian, lasts]
    rfl

end Configuration

/-! ## How settings are written -/

/-- An address is written as a text of its digits. -/
def WritesAddress (a : Address) (v : List Char) : Prop :=
  ∃ s, WritesText s v ∧ FixedBytes.parse s = .ok a

/-- An address that may be null is written like this. -/
inductive WritesOptionalAddress : Option Address → List Char → Prop where
  | null : WritesOptionalAddress none "null".toList
  | address {a : Address} {v : List Char} (written : WritesAddress a v) :
      WritesOptionalAddress (some a) v

/-- A protocol is written as its name, or as an object with null under the name. -/
inductive WritesProtocol (p : Protocol) : List Char → Prop where
  | name {v : List Char} (written : WritesText p.key v) : WritesProtocol p v
  | object {inside : List Char} {m : Member} (spaces : Spaces inside) (spaced : m.Spaced)
      (spells : Spells m.name p.key) (null : m.cell.value = "null".toList) :
      WritesProtocol p (objectText inside [m])

namespace Setting

/-- The value of a setting is written like this. -/
def WrittenAs : Setting → List Char → Prop
  | chainId x => WritesNatural x.toNat
  | custody a => WritesAddress a
  | adjudicator a => WritesOptionalAddress a
  | guest a => WritesOptionalAddress a
  | challengeDuration x => WritesNatural x.toNat
  | protocol p => WritesProtocol p
  | assetLifetime x => WritesNatural x.toNat
  | nativeSymbol s => WritesText s
  | nativeDecimals x => WritesNatural x.toNat

end Setting

section Values

variable {v : List Char}

/-- An address is written as a JSON value. -/
theorem WritesAddress.isValue {a : Address} (h : WritesAddress a v) : IsValue v := by
  obtain ⟨s, written, -⟩ := h
  exact WritesText.isValue written

/-- An address that may be missing is written as a JSON value too, which may be `null`. -/
theorem WritesOptionalAddress.isValue {a : Option Address} (h : WritesOptionalAddress a v) :
    IsValue v := by
  cases h with
  | null => exact .word (by simp [words])
  | address written => exact written.isValue

/-- A protocol is written as a JSON value, by its name or as an object of that name. -/
theorem WritesProtocol.isValue {p : Protocol} (h : WritesProtocol p v) : IsValue v := by
  cases h with
  | name written => exact WritesText.isValue written
  | object spaces spaced _ null =>
    refine .object spaces (List.forall_mem_singleton.2 spaced) (List.forall_mem_singleton.2 ?_)
    rw [null]
    exact .word (by simp [words])

/-- What a setting is written as is a value in any document. -/
theorem Setting.WrittenAs.isValue {s : Setting} (h : s.WrittenAs v) : IsValue v := by
  cases s with
  | chainId | challengeDuration | assetLifetime | nativeDecimals => exact WritesNatural.isValue h
  | custody => exact WritesAddress.isValue h
  | adjudicator | guest => exact WritesOptionalAddress.isValue h
  | protocol => exact WritesProtocol.isValue h
  | nativeSymbol => exact WritesText.isValue h

end Values

/-! ## Reading settings -/

namespace Configuration

variable {text rest : List Char}

/-- An address is read just from a text that spells it, behind spaces. -/
theorem reads_readAddress {a : Address} : Reads readAddress text a rest ↔
    ∃ sp v, Spaces sp ∧ text = sp ++ (v ++ rest) ∧ WritesAddress a v := by
  rw [readAddress, reads_bind]
  simp only [reads_readString]
  constructor
  · rintro ⟨s, mid, ⟨sp, v, spaces, rfl, written⟩, h⟩
    cases parsed : (FixedBytes.parse s : Except Hex.Error Address) with
    | error e =>
      rw [parsed] at h
      exact absurd h not_reads_throw
    | ok b =>
      rw [parsed] at h
      obtain ⟨rfl, rfl⟩ := reads_pure.1 h
      exact ⟨sp, v, spaces, rfl, s, written, parsed⟩
  · rintro ⟨sp, v, spaces, rfl, s, written, parsed⟩
    refine ⟨s, rest, ⟨sp, v, spaces, rfl, written⟩, ?_⟩
    rw [parsed]
    exact reads_pure.2 ⟨rfl, rfl⟩

/-- An address that may be missing is read from a text that spells it, or from `null`. -/
theorem reads_readOptionalAddress {a : Option Address} : Reads readOptionalAddress text a rest ↔
    ∃ sp v, Spaces sp ∧ text = sp ++ (v ++ rest) ∧ WritesOptionalAddress a v := by
  rw [readOptionalAddress, reads_skipSpaces_bind]
  constructor
  · rintro ⟨sp, mid, rfl, spaces, -, h⟩
    by_cases null : mid.head? = some 'n'
    · rw [if_pos null] at h
      obtain ⟨_, _, read, h⟩ := reads_bind.1 h
      obtain rfl := reads_expect.1 read
      obtain ⟨rfl, rfl⟩ := reads_pure.1 h
      exact ⟨sp, _, spaces, rfl, .null⟩
    · rw [if_neg null] at h
      obtain ⟨b, read, rfl⟩ := reads_map.1 h
      obtain ⟨sp', v, spaces', rfl, written⟩ := reads_readAddress.1 read
      exact ⟨sp ++ sp', v, spaces.append spaces', by simp, .address written⟩
  · rintro ⟨sp, v, spaces, rfl, written⟩
    cases written with
    | null =>
      refine ⟨sp, _, rfl, spaces, stopsAt_cons.2 rfl, ?_⟩
      rw [show ("null".toList ++ rest).head? = some 'n' from rfl, if_pos rfl]
      exact Reads.bind (a := ()) (reads_expect.2 rfl) (reads_pure.2 ⟨rfl, rfl⟩)
    | @address b _ written =>
      refine ⟨sp, v ++ rest, rfl, spaces, (WritesAddress.isValue written).stopsAt rest |>.1, ?_⟩
      have quoted : (v ++ rest).head? ≠ some 'n' := by
        obtain ⟨s, ⟨body, rfl, -⟩, -⟩ := written
        simp
      rw [if_neg quoted, reads_map]
      exact ⟨b, reads_readAddress.2 ⟨[], v, spaces_nil, rfl, written⟩, rfl⟩

/-- A protocol is known by its own name only. -/
theorem protocolOfName_eq_ok_iff {name : String} {p : Protocol} :
    protocolOfName name = .ok p ↔ name = p.key := by
  rw [protocolOfName]
  by_cases legacy : name = Protocol.legacy.key
  · rw [if_pos legacy, legacy]
    cases p with
    | legacy => exact iff_of_true rfl rfl
    | v1 => exact iff_of_false nofun (by decide)
  · rw [if_neg legacy]
    by_cases v1 : name = Protocol.v1.key
    · rw [if_pos v1, v1]
      cases p with
      | legacy => exact iff_of_false nofun (by decide)
      | v1 => exact iff_of_true rfl rfl
    · rw [if_neg v1]
      refine iff_of_false nofun ?_
      cases p with
      | legacy => exact legacy
      | v1 => exact v1

/-- Reads what follows the name of a protocol in an object. -/
def readNull (p : Protocol) : Reader Protocol := do
  readColon
  match ← skipSpaces with
  | some 'n' => expect "null".toList
  | some _ => mismatch "unit"
  | none => throw .unfinished
  match ← skipSpaces with
  | some '}' => advance
  | some _ => throw .malformed
  | none => throw .unfinished
  pure p

/-- What follows the name of a protocol in an object is `null`, and the end of the object. -/
theorem reads_readNull {p q : Protocol} : Reads (readNull p) text q rest ↔
    ∃ gap before after, Spaces gap ∧ Spaces before ∧ Spaces after ∧ q = p ∧
      text = gap ++ ':' :: (before ++ ("null".toList ++ (after ++ '}' :: rest))) := by
  have brace {text : List Char} : Reads (skipSpaces >>= fun c => match c with
      | some '}' => advance >>= fun _ => pure p
      | some _ => throw .malformed >>= fun (_ : Unit) => pure p
      | none => throw .unfinished >>= fun (_ : Unit) => pure p) text q rest ↔
      ∃ after mid, Spaces after ∧ text = after ++ '}' :: mid ∧
        Reads (pure p) mid q rest := by
    refine reads_char_bind '}' (pure p) rfl (fun _ => Iff.rfl) fun o cs ne => ?_
    split
    · exact absurd rfl ne
    all_goals simp
  rw [readNull, reads_bind]
  simp only [reads_readColon]
  constructor
  · rintro ⟨_, _, ⟨gap, spaces, rfl⟩, h⟩
    obtain ⟨before, mid, rfl, spacesBefore, -, behind⟩ := reads_skipSpaces_bind.1 h
    -- Only an n leads on to the word; with anything else, reading fails at once.
    split at behind
    case h_1 =>
      obtain ⟨_, _, null, last⟩ := reads_bind.1 behind
      obtain rfl := reads_expect.1 null
      obtain ⟨after, mid, spacesAfter, rfl, result⟩ := brace.1 last
      obtain ⟨rfl, rfl⟩ := reads_pure.1 result
      exact ⟨gap, before, after, spaces, spacesBefore, spacesAfter, rfl, rfl⟩
    case h_2 =>
      obtain ⟨_, _, other, -⟩ := reads_bind.1 behind
      exact absurd other not_reads_mismatch
    case h_3 => simp [reads_bind] at behind
  · rintro ⟨gap, before, after, spaces, spacesBefore, spacesAfter, rfl, rfl⟩
    refine ⟨(), _, ⟨gap, spaces, rfl⟩, ?_⟩
    refine reads_skipSpaces_bind.2 ⟨before, _, rfl, spacesBefore, stopsAt_cons.2 rfl, ?_⟩
    refine Reads.bind (a := ()) (reads_expect.2 rfl) (brace.2 ?_)
    exact ⟨after, rest, spacesAfter, rfl, reads_pure.2 ⟨rfl, rfl⟩⟩

/-- A protocol is read just from its name, or from an object that has the name as its only entry,
    with `null` as the value. -/
theorem reads_readProtocol {p : Protocol} : Reads readProtocol text p rest ↔
    ∃ sp v, Spaces sp ∧ text = sp ++ (v ++ rest) ∧ WritesProtocol p v := by
  rw [readProtocol, reads_skipSpaces_bind]
  constructor
  · rintro ⟨sp, mid, rfl, spaces, -, h⟩
    -- A quote begins the name itself, and a brace the object that has it as its only entry.
    split at h
    case h_1 front =>
      obtain ⟨tail, rfl⟩ := List.head?_eq_some_iff.1 front
      obtain ⟨s, _, read, result⟩ := reads_bind.1 (reads_advance_bind.1 h)
      obtain ⟨body, rfl, spells⟩ := reads_readText.1 read
      obtain ⟨named, rfl⟩ := reads_lift.1 result
      obtain rfl := protocolOfName_eq_ok_iff.1 named
      exact ⟨sp, _, spaces, by simp, .name ⟨body, rfl, spells⟩⟩
    case h_2 front =>
      obtain ⟨tail, rfl⟩ := List.head?_eq_some_iff.1 front
      obtain ⟨name, _, read, behind⟩ := reads_bind.1 (reads_advance_bind.1 h)
      cases name with
      | none => exact absurd behind not_reads_throw
      | some s =>
        obtain ⟨lead, body, leading, rfl, spells⟩ := reads_readName_first.1 read
        obtain ⟨q, _, variant, member⟩ := reads_bind.1 behind
        obtain ⟨named, rfl⟩ := reads_lift.1 variant
        obtain rfl := protocolOfName_eq_ok_iff.1 named
        obtain ⟨gap, before, after, spaces₁, spaces₂, spaces₃, rfl, rfl⟩ := reads_readNull.1 member
        have spaced : Member.Spaced ⟨lead, body, gap, ⟨before, "null".toList, after⟩⟩ :=
          ⟨leading, spaces₁, ⟨spaces₂, spaces₃⟩, spells.exists_spelling⟩
        refine ⟨sp, _, spaces, ?_, .object spaces_nil spaced spells rfl⟩
        simp [objectText, listing, Member.chars, Cell.chars]
    case h_3 | h_4 => exact absurd h not_reads_throw
  · rintro ⟨sp, v, spaces, rfl, written⟩
    cases written with
    | name written =>
      obtain ⟨body, rfl, spells⟩ := written
      refine ⟨sp, _, rfl, spaces, stopsAt_cons.2 rfl, ?_⟩
      have read : Reads readText (body ++ ['"'] ++ rest) p.key rest :=
        reads_readText.2 ⟨body, by simp, spells⟩
      exact reads_advance_bind.2
        (read.bind (reads_lift.2 ⟨protocolOfName_eq_ok_iff.2 rfl, rfl⟩))
    | @object inside m spaces' spaced spells null =>
      -- The spaces inside the object are read along with those in front of the name.
      have read : Reads (readName true)
          (inside ++ listing '}' true ([m].map Member.chars) ++ rest) (some p.key)
          (m.gap ++ ':' :: (m.cell.lead ++ ("null".toList ++ (m.cell.trail ++ '}' :: rest)))) :=
        reads_readName_first.2 ⟨inside ++ m.lead, m.name, spaces'.append spaced.lead,
          by simp [listing, Member.chars, Cell.chars, null], spells⟩
      have behind : Reads (readNull p)
          (m.gap ++ ':' :: (m.cell.lead ++ ("null".toList ++ (m.cell.trail ++ '}' :: rest)))) p
          rest :=
        reads_readNull.2 ⟨m.gap, m.cell.lead, m.cell.trail, spaced.gap, spaced.cell.lead,
          spaced.cell.trail, rfl, rfl⟩
      refine ⟨sp, _, rfl, spaces, stopsAt_cons.2 rfl, ?_⟩
      exact reads_advance_bind.2
        (read.bind (Reads.bind (reads_lift.2 ⟨protocolOfName_eq_ok_iff.2 rfl, rfl⟩) behind))

/-- A number that is read is below the limit, and has been written. -/
theorem exists_number {limit : Nat} {expected : String} {wrap : Nat → Setting} {s : Setting}
    (h : Reads (readNatural limit expected >>= fun n => pure (wrap n)) text s rest) :
    ∃ n, s = wrap n ∧ n < limit ∧
      ∃ sp v, Spaces sp ∧ text = sp ++ (v ++ rest) ∧ WritesNatural n v := by
  obtain ⟨n, _, read, result⟩ := reads_bind.1 h
  obtain ⟨rfl, rfl⟩ := reads_pure.1 result
  obtain ⟨sp, v, spaces, rfl, written, lt⟩ := exists_natural read
  exact ⟨n, rfl, lt, sp, v, spaces, rfl, written⟩

/-- What is read as the value of a field is a setting of the field, and is written as one. -/
theorem exists_setting {f : Field} {s : Setting} (h : Reads (readSetting f) text s rest) :
    s.field = f ∧ ∃ sp v, Spaces sp ∧ text = sp ++ (v ++ rest) ∧ s.WrittenAs v := by
  cases f with
  | chainId =>
    obtain ⟨n, rfl, lt, sp, v, spaces, rfl, written⟩ := exists_number h
    exact ⟨rfl, sp, v, spaces, rfl, by rwa [Setting.WrittenAs, UInt64.toNat_ofNat_of_lt' lt]⟩
  | custody =>
    obtain ⟨a, read, rfl⟩ := reads_map.1 h
    exact ⟨rfl, reads_readAddress.1 read⟩
  | adjudicator | guest =>
    obtain ⟨a, read, rfl⟩ := reads_map.1 h
    exact ⟨rfl, reads_readOptionalAddress.1 read⟩
  | challengeDuration =>
    obtain ⟨n, rfl, lt, sp, v, spaces, rfl, written⟩ := exists_number h
    exact ⟨rfl, sp, v, spaces, rfl, by rwa [Setting.WrittenAs, UInt32.toNat_ofNat_of_lt' lt]⟩
  | protocol =>
    obtain ⟨p, read, rfl⟩ := reads_map.1 h
    exact ⟨rfl, reads_readProtocol.1 read⟩
  | assetLifetime =>
    obtain ⟨n, rfl, lt, sp, v, spaces, rfl, written⟩ := exists_number h
    exact ⟨rfl, sp, v, spaces, rfl, by rwa [Setting.WrittenAs, UInt64.toNat_ofNat_of_lt' lt]⟩
  | nativeSymbol =>
    obtain ⟨t, read, rfl⟩ := reads_map.1 h
    exact ⟨rfl, reads_readString.1 read⟩
  | nativeDecimals =>
    obtain ⟨n, rfl, lt, sp, v, spaces, rfl, written⟩ := exists_number h
    exact ⟨rfl, sp, v, spaces, rfl, by rwa [Setting.WrittenAs, UInt8.toNat_ofNat_of_lt' lt]⟩

end Configuration

/-- A setting that is written where nothing of its value can follow is read. -/
theorem Setting.WrittenAs.reads {s : Setting} {sp v rest : List Char} (h : s.WrittenAs v)
    (spaces : Spaces sp) (stop : Ends rest) :
    Reads (Configuration.readSetting s.field) (sp ++ (v ++ rest)) s rest := by
  cases s with
  | chainId x | assetLifetime x =>
    refine (WritesNatural.reads h x.toNat_lt spaces stop).bind (reads_pure.2 ⟨?_, rfl⟩)
    rw [UInt64.ofNat_toNat]
  | custody a => exact Reads.map (Configuration.reads_readAddress.2 ⟨sp, v, spaces, rfl, h⟩) _
  | adjudicator a | guest a =>
    exact Reads.map (Configuration.reads_readOptionalAddress.2 ⟨sp, v, spaces, rfl, h⟩) _
  | challengeDuration x =>
    refine (WritesNatural.reads h x.toNat_lt spaces stop).bind (reads_pure.2 ⟨?_, rfl⟩)
    rw [UInt32.ofNat_toNat]
  | protocol p => exact Reads.map (Configuration.reads_readProtocol.2 ⟨sp, v, spaces, rfl, h⟩) _
  | nativeSymbol t => exact Reads.map (reads_readString.2 ⟨sp, v, spaces, rfl, h⟩) _
  | nativeDecimals x =>
    refine (WritesNatural.reads h x.toNat_lt spaces stop).bind (reads_pure.2 ⟨?_, rfl⟩)
    rw [UInt8.ofNat_toNat]

/-- A field has one value in a text at most. -/
theorem Setting.WrittenAs.unique {s t : Setting} {v : List Char} (h : s.WrittenAs v)
    (h' : t.WrittenAs v) (same : s.field = t.field) : s = t := by
  have read := h.reads spaces_nil ends_nil
  rw [same] at read
  exact (read.unique (h'.reads spaces_nil ends_nil)).1

end PaymentChannel
