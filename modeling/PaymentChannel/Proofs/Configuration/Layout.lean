import PaymentChannel.Client.Basic
import PaymentChannel.Proofs.Configuration.Document

/-!
# The layout of configuration documents

A configuration is what the entries of a document say together (`Describes`): every field that some
entry sets has the value written there, and every other field has its usual value. The order of the
entries, entries of other names and usual values that are written out make no difference to that
(`Rearranged.describes`), and neither do the spaces. The values may also stand in an array, in the
order of the fields (`Lists`). All of this is put together in `layout_independent`, with what is
checked of every configuration in the end.
-/

namespace PaymentChannel.Configuration

open Json

variable {es es' : List Entry} {e : Entry} {f : Field} {s : Setting} {ss : List Setting}
  {c : Configuration}

/-! ## What entries say -/

/-- What the entries say together is the configuration. -/
structure Describes (es : List Entry) (c : Configuration) : Prop where
  named : ∀ e ∈ es, e.Foreign ∨ ∃ f, e.Sets f
  once : es.Pairwise fun d e => ∀ f, d.Sets f → ¬e.Sets f
  given : ∀ e ∈ es, ∀ f, e.Sets f → (c.setting f).WrittenAs e.value
  usual : ∀ f, (∀ e ∈ es, ¬e.Sets f) → f.usual? = some (c.setting f)

namespace Gives

/-- Entries that give settings are foreign or set a field. -/
theorem named (h : Gives es ss) : ∀ e ∈ es, e.Foreign ∨ ∃ f, e.Sets f := by
  induction h with
  | nil => exact nofun
  | foreign foreign _ ih => exact List.forall_mem_cons.2 ⟨.inl foreign, ih⟩
  | setting sets _ _ ih => exact List.forall_mem_cons.2 ⟨.inr ⟨_, sets⟩, ih⟩

/-- Every setting is given by an entry. -/
theorem exists_entry (h : Gives es ss) :
    ∀ s ∈ ss, ∃ e ∈ es, e.Sets s.field ∧ s.WrittenAs e.value := by
  induction h with
  | nil => exact nofun
  | foreign _ _ ih => exact fun s hs => (ih s hs).imp fun e h => ⟨List.mem_cons_of_mem _ h.1, h.2⟩
  | setting sets written _ ih =>
    refine List.forall_mem_cons.2 ⟨⟨_, List.mem_cons_self, sets, written⟩, fun s hs => ?_⟩
    exact (ih s hs).imp fun e h => ⟨List.mem_cons_of_mem _ h.1, h.2⟩

/-- Every entry that sets a field gives a setting. -/
theorem exists_setting (h : Gives es ss) :
    ∀ e ∈ es, e.Sets f → ∃ s ∈ ss, s.field = f ∧ s.WrittenAs e.value := by
  induction h with
  | nil => exact nofun
  | foreign foreign _ ih =>
    exact List.forall_mem_cons.2 ⟨fun sets => absurd sets foreign.not_sets, ih⟩
  | setting sets written _ ih =>
    refine List.forall_mem_cons.2
      ⟨fun sets' => ⟨_, List.mem_cons_self, sets.unique sets', written⟩, fun e he sets => ?_⟩
    exact (ih e he sets).imp fun s h => ⟨List.mem_cons_of_mem _ h.1, h.2⟩

/-- No field is set twice by the settings if none is by the entries. -/
theorem distinct_iff (h : Gives es ss) :
    Distinct ss ↔ es.Pairwise fun d e => ∀ f, d.Sets f → ¬e.Sets f := by
  induction h with
  | nil => exact iff_of_true List.nodup_nil List.Pairwise.nil
  | foreign foreign _ ih =>
    rw [List.pairwise_cons, ih]
    exact (and_iff_right fun e _ f sets => absurd sets foreign.not_sets).symm
  | @setting e es s ss sets written behind ih =>
    -- The first entry sets a field again if and only if the first setting does.
    rw [List.pairwise_cons, ← ih, Distinct, List.map_cons, List.nodup_cons, Distinct]
    refine and_congr_left fun _ => ?_
    constructor
    · rintro fresh d hd f sets' again
      obtain ⟨t, ht, field, -⟩ := behind.exists_setting d hd again
      exact fresh (List.mem_map.2 ⟨t, ht, field.trans (sets'.unique sets)⟩)
    · intro once twice
      obtain ⟨t, ht, field⟩ := List.mem_map.1 twice
      obtain ⟨d, hd, sets', -⟩ := behind.exists_entry t ht
      exact once d hd t.field (field ▸ sets) sets'

end Gives

/-! ## Settings that agree with a configuration -/

/-- Among distinct settings, a field has the one that is given. -/
theorem settingOf?_of_mem (distinct : Distinct ss) (mem : s ∈ ss) :
    settingOf? ss s.field = some s := by
  have found : ss.find? (fun t => t.field == s.field) = some s := by
    induction ss with
    | nil => exact nomatch mem
    | cons t ss ih =>
      obtain ⟨fresh, distinct⟩ := List.nodup_cons.1 distinct
      obtain rfl | mem := List.mem_cons.1 mem
      · exact List.find?_cons_of_pos (beq_self_eq_true _)
      · rw [List.find?_cons_of_neg, ih distinct mem]
        intro same
        exact fresh (List.mem_map.2 ⟨s, mem, (beq_iff_eq.1 same).symm⟩)
  rw [settingOf?, found, Option.some_or]

/-- A field that is not given has its usual setting. -/
theorem settingOf?_of_notMem (h : f ∉ ss.map Setting.field) : settingOf? ss f = f.usual? := by
  have none : ss.find? (fun t => t.field == f) = none :=
    List.find?_eq_none.2 fun t ht same => h (List.mem_map.2 ⟨t, ht, beq_iff_eq.1 same⟩)
  rw [settingOf?, none, Option.none_or]

/-- Settings of a configuration make it up if those that are missing are usual. -/
theorem ofSettings_eq_ok (agrees : ∀ s ∈ ss, s = c.setting s.field)
    (usual : ∀ f, f ∉ ss.map Setting.field → f.usual? = some (c.setting f)) :
    ofSettings ss = .ok c := by
  refine ofSettings_eq_ok_iff.2 fun f => ?_
  by_cases h : f ∈ ss.map Setting.field
  · obtain ⟨s, mem, rfl⟩ := List.mem_map.1 h
    obtain ⟨t, found⟩ : ∃ t, ss.find? (fun t => t.field == s.field) = some t :=
      Option.isSome_iff_exists.1 (List.find?_isSome.2 ⟨s, mem, beq_self_eq_true _⟩)
    have same : t.field = s.field := by simpa using List.find?_some found
    rw [settingOf?, found, Option.some_or, agrees t (List.mem_of_find?_eq_some found), same]
  · rw [settingOf?_of_notMem h, usual f h]

/-- Entries that write the values of a configuration give its settings. -/
theorem exists_gives (named : ∀ e ∈ es, e.Foreign ∨ ∃ f, e.Sets f)
    (given : ∀ e ∈ es, ∀ f, e.Sets f → (c.setting f).WrittenAs e.value) :
    ∃ ss, Gives es ss ∧ ∀ s ∈ ss, s = c.setting s.field := by
  induction es with
  | nil => exact ⟨[], .nil, nofun⟩
  | cons e es ih =>
    obtain ⟨name, names⟩ := List.forall_mem_cons.1 named
    obtain ⟨value, values⟩ := List.forall_mem_cons.1 given
    obtain ⟨ss, gives, agrees⟩ := ih names values
    obtain foreign | ⟨f, sets⟩ := name
    · exact ⟨ss, .foreign foreign gives, agrees⟩
    · refine ⟨c.setting f :: ss, .setting (by simpa using sets) (value f sets) gives, ?_⟩
      exact List.forall_mem_cons.2 ⟨by simp, agrees⟩

/-- What entries describe is what the settings that they give make up. -/
theorem describes_iff :
    Describes es c ↔ ∃ ss, Gives es ss ∧ Distinct ss ∧ ofSettings ss = .ok c := by
  constructor
  · intro h
    -- The settings that the entries give are those of the configuration.
    obtain ⟨ss, gives, agrees⟩ := exists_gives h.named h.given
    refine ⟨ss, gives, gives.distinct_iff.2 h.once, ofSettings_eq_ok agrees fun f missing => ?_⟩
    refine h.usual f fun e he sets => missing ?_
    obtain ⟨s, mem, field, -⟩ := gives.exists_setting e he sets
    exact List.mem_map.2 ⟨s, mem, field⟩
  · rintro ⟨ss, gives, distinct, made⟩
    -- What is looked up in the settings is what the only entry for the field says.
    rw [ofSettings_eq_ok_iff] at made
    refine ⟨gives.named, gives.distinct_iff.1 distinct, fun e he f sets => ?_, fun f absent => ?_⟩
    · obtain ⟨s, mem, rfl, written⟩ := gives.exists_setting e he sets
      rwa [← Option.some.inj ((settingOf?_of_mem distinct mem).symm.trans (made s.field))]
    · rw [← made f, settingOf?_of_notMem]
      intro set
      obtain ⟨s, mem, rfl⟩ := List.mem_map.1 set
      obtain ⟨e, he, sets, -⟩ := gives.exists_entry s mem
      exact absent e he sets

/-- An object is accepted if it describes a valid configuration. -/
theorem parse_eq_ok_iff_describes {text : String} (h : HasEntries text es) :
    parse text = .ok c ↔ Describes es c ∧ c.validate = .ok () := by
  rw [parse_object_iff h, describes_iff]

/-! ## Rearrangements -/

/-- The same configuration is described in another way. As the order can be changed, an entry that
    comes or goes may be anywhere. -/
inductive Rearranged : List Entry → List Entry → Prop where
  | permute {es es' : List Entry} (h : es.Perm es') : Rearranged es es'
  | insert {e : Entry} {es : List Entry} (foreign : e.Foreign) : Rearranged es (e :: es)
  | remove {e : Entry} {es : List Entry} (foreign : e.Foreign) : Rearranged (e :: es) es
  /-- The usual value of a field is written out. -/
  | writeOut {e : Entry} {es : List Entry} {f : Field} {s : Setting} (usual : f.usual? = some s)
      (sets : e.Sets f) (written : s.WrittenAs e.value) (absent : ∀ d ∈ es, ¬d.Sets f) :
      Rearranged es (e :: es)
  /-- The usual value of a field is left out. -/
  | leaveOut {e : Entry} {es : List Entry} {f : Field} {s : Setting} (usual : f.usual? = some s)
      (sets : e.Sets f) (written : s.WrittenAs e.value) : Rearranged (e :: es) es
  | trans {es es' es'' : List Entry} (first : Rearranged es es') (second : Rearranged es' es'') :
      Rearranged es es''

/-- The order of entries does not matter. -/
theorem Describes.of_perm (h : Describes es c) (perm : es.Perm es') : Describes es' c where
  named e he := h.named e (perm.mem_iff.2 he)
  once := by
    refine h.once.perm perm ?_
    exact fun apart f sets sets' => apart f sets' sets
  given e he := h.given e (perm.mem_iff.2 he)
  usual f absent := h.usual f fun e he => absent e (perm.mem_iff.1 he)

/-- Entries of other names do not matter. -/
theorem describes_cons_foreign (foreign : e.Foreign) :
    Describes (e :: es) c ↔ Describes es c := by
  constructor
  · intro h
    refine ⟨(List.forall_mem_cons.1 h.named).2, h.once.tail, (List.forall_mem_cons.1 h.given).2,
      fun f absent => h.usual f (List.forall_mem_cons.2 ⟨foreign.not_sets, absent⟩)⟩
  · intro h
    exact ⟨List.forall_mem_cons.2 ⟨.inl foreign, h.named⟩,
      h.once.cons fun d _ f sets => absurd sets foreign.not_sets,
      List.forall_mem_cons.2 ⟨fun f sets => absurd sets foreign.not_sets, h.given⟩,
      fun f absent => h.usual f (List.forall_mem_cons.1 absent).2⟩

/-- An entry with the usual value of a field says the same as none for the field. -/
theorem describes_cons_usual (usual : f.usual? = some s) (sets : e.Sets f)
    (written : s.WrittenAs e.value) :
    Describes (e :: es) c ↔ Describes es c ∧ ∀ d ∈ es, ¬d.Sets f := by
  constructor
  · intro h
    have apart : ∀ d ∈ es, ¬d.Sets f := fun d hd => (List.pairwise_cons.1 h.once).1 d hd f sets
    refine ⟨⟨(List.forall_mem_cons.1 h.named).2, h.once.tail, (List.forall_mem_cons.1 h.given).2,
      fun g absent => ?_⟩, apart⟩
    -- The field itself is not set by the others, but the entry had its usual value.
    by_cases same : g = f
    · have value : c.setting f = s := (h.given e List.mem_cons_self f sets).unique written
        (by rw [setting_field, Field.field_of_usual? usual])
      rw [same, usual, value]
    · exact h.usual g (List.forall_mem_cons.2 ⟨fun sets' => same (sets'.unique sets), absent⟩)
  · rintro ⟨h, apart⟩
    have value : s = c.setting f := Option.some.inj (usual.symm.trans (h.usual f apart))
    refine ⟨List.forall_mem_cons.2 ⟨.inr ⟨f, sets⟩, h.named⟩, h.once.cons ?_,
      List.forall_mem_cons.2 ⟨fun g sets' => ?_, h.given⟩,
      fun g absent => h.usual g (List.forall_mem_cons.1 absent).2⟩
    · intro d hd g sets' again
      exact apart d hd (sets.unique sets' ▸ again)
    · rw [← sets.unique sets', ← value]
      exact written

/-- Rearranged entries describe the same. -/
theorem Rearranged.describes (h : Rearranged es es') : Describes es c → Describes es' c := by
  induction h with
  | permute perm => exact fun h => h.of_perm perm
  | insert foreign => exact (describes_cons_foreign foreign).2
  | remove foreign => exact (describes_cons_foreign foreign).1
  | writeOut usual sets written absent =>
    exact fun h => (describes_cons_usual usual sets written).2 ⟨h, absent⟩
  | leaveOut usual sets written => exact fun h => ((describes_cons_usual usual sets written).1 h).1
  | trans _ _ first second => exact second ∘ first

/-! ## Arrays -/

/-- The values are what the configuration says about the fields, in their order. Usual ones at the
    end may be left out. -/
def Lists (vs : List (List Char)) (c : Configuration) : Prop :=
  ∃ given omitted, Field.all = given ++ omitted ∧
    List.Forall₂ (fun f v => (c.setting f).WrittenAs v) given vs ∧
      ∀ f ∈ omitted, f.usual? = some (c.setting f)

/-- An array that lists a valid configuration is read as that. -/
theorem Lists.parse_eq_ok {text : String} {vs : List (List Char)} (lists : Lists vs c)
    (h : HasElements text vs) (valid : c.validate = .ok ()) : parse text = .ok c := by
  obtain ⟨given, omitted, order, written, usual⟩ := lists
  have fields : (given.map c.setting).map Setting.field = given := by
    rw [List.map_map]
    exact List.map_id'' (setting_field c) given
  refine parse_array h (by rw [fields, order]) (List.forall₂_map_left_iff.2 written)
    (fun f hf => ?_) (ofSettings_eq_ok ?_ fun f missing => ?_) valid
  · have := usual f hf
    rw [Field.usual?] at this
    split at this
    · exact nomatch this
    · rename_i optional
      exact Bool.not_eq_true _ ▸ optional
  · rw [List.forall_mem_map]
    exact fun f _ => by rw [setting_field]
  · rw [fields] at missing
    have mem : f ∈ given ++ omitted := order ▸ Field.mem_all f
    exact usual f ((List.mem_append.1 mem).resolve_left missing)

/-- Every usual value can be written out. -/
theorem exists_usual_text (usual : f.usual? = some s) : ∃ v, s.WrittenAs v := by
  cases f with
  | chainId | custody | challengeDuration => exact nomatch usual
  | adjudicator | guest =>
    cases usual
    exact ⟨_, WritesOptionalAddress.null⟩
  | protocol =>
    cases usual
    exact ⟨_, WritesProtocol.name (writesText_quoted (by simp [standard, Protocol.key]))⟩
  | assetLifetime =>
    cases usual
    exact ⟨"300".toList, writesNatural_digits (by simp [IsWhole, IsDigits]) rfl⟩
  | nativeSymbol =>
    cases usual
    exact ⟨_, writesText_quoted (by simp [standard])⟩
  | nativeDecimals =>
    cases usual
    exact ⟨"18".toList, writesNatural_digits (by simp [IsWhole, IsDigits]) rfl⟩

/-- All that is listed are JSON values. -/
theorem Lists.isValue {vs : List (List Char)} (h : Lists vs c) : ∀ v ∈ vs, IsValue v := by
  obtain ⟨given, omitted, -, written, -⟩ := h
  induction written with
  | nil => exact nofun
  | cons value _ ih => exact List.forall_mem_cons.2 ⟨value.isValue, ih⟩

/-- The values of all fields can be taken from what describes the configuration. -/
theorem Describes.exists_lists (h : Describes es c) :
    ∃ vs, vs.length = Field.all.length ∧ Lists vs c := by
  have written (f : Field) : ∃ v, (c.setting f).WrittenAs v := by
    -- Either an entry has the value, or it is a usual one.
    by_cases set : ∃ e ∈ es, e.Sets f
    · obtain ⟨e, he, sets⟩ := set
      exact ⟨e.value, h.given e he f sets⟩
    · exact exists_usual_text (h.usual f fun e he sets => set ⟨e, he, sets⟩)
  choose value value_written using written
  refine ⟨Field.all.map value, List.length_map value, Field.all, [], (List.append_nil _).symm, ?_,
    nofun⟩
  rw [List.forall₂_map_right_iff, List.forall₂_same]
  exact fun f _ => value_written f

/-! ## Valid configurations -/

/-- What no operation can do without is there. -/
structure Usable (c : Configuration) : Prop where
  custody : c.custody ≠ FixedBytes.zero
  chainId : c.chainId ≠ 0
  challengeDuration : c.challengeDuration ≠ 0

theorem usable_iff : Usable c ↔ c.validate = .ok () := by
  have zero : c.custody.isZero = false ↔ c.custody ≠ FixedBytes.zero := by
    rw [FixedBytes.isZero, beq_eq_false_iff_ne, not_iff_not]
    exact ⟨fun h => by rw [FixedBytes.zero, ← h], fun h => by rw [h, FixedBytes.zero]⟩
  rw [validate_eq_ok_iff, zero]
  exact ⟨fun h => ⟨h.custody, h.chainId, h.challengeDuration⟩, fun h => ⟨h.1, h.2.1, h.2.2⟩⟩

/-- A client has the configuration it has been made with. -/
theorem configuration_of_new {account : Address} {alternate : Option Address} {custody : Address}
    {client : Client} (h : Client.new c account alternate custody = .ok client) :
    client.configuration = c := by
  unfold Client.new at h
  split at h
  · cases h
    rfl
  · exact nomatch h

/-- A client is made just if the configuration is usable. -/
theorem exists_new_iff {account : Address} {alternate : Option Address} {custody : Address} :
    (∃ client, Client.new c account alternate custody = .ok client) ↔ Usable c := by
  rw [usable_iff]
  constructor
  · rintro ⟨client, made⟩
    rw [← configuration_of_new made]
    exact client.valid
  · intro valid
    refine ⟨⟨c, valid, account, alternate, custody⟩, ?_⟩
    unfold Client.new
    split
    · rfl
    · rename_i refused
      exact nomatch valid.symm.trans refused

/-! ## All layouts -/

/-- The object with nothing but the required fields. -/
def minimalEntries : List Entry := [
  ⟨"chain_id".toList, "1".toList⟩,
  ⟨"custody".toList, quoted "0x0000000000000000000000000000000000000001"⟩,
  ⟨"challenge_duration".toList, "60".toList⟩]

/-- The same from the last entry to the first, behind a usual value and an entry of another name. -/
def annotatedEntries : List Entry :=
  ⟨"note".toList, "[true]".toList⟩ :: ⟨"protocol".toList, quoted "v1"⟩ :: minimalEntries.reverse

/-- The same as an array without the usual values at the end. -/
def minimalValues : List (List Char) := [
  "1".toList, quoted "0x0000000000000000000000000000000000000001", "null".toList, "null".toList,
  "60".toList]

/-- A configuration does not depend on the layout of its document, and it is always valid:  * an
    accepted object has one list of entries, and any entries are those of some object; * an object
    is accepted just if its entries describe a valid configuration; * an object whose entries are
    rearranged is accepted with the same configuration; * the nine values can be written as an
    array, and every array of them in their order is accepted with the same configuration, also if
    usual ones at the end are left out; * a configuration that is accepted is usable, and so is the
    one of any client: there is one just for the usable configurations. -/
theorem layout_independent :
    (∀ (text : String) (sp tail : List Char) (c : Configuration), Spaces sp →
      text.toList = sp ++ '{' :: tail → parse text = .ok c → ∃! es, HasEntries text es) ∧
    (∀ es : List Entry, (∀ e ∈ es, e.WellFormed) → HasEntries (compactObject es) es) ∧
    (∀ (text : String) (es : List Entry) (c : Configuration), HasEntries text es →
      (parse text = .ok c ↔ Describes es c ∧ c.validate = .ok ())) ∧
    (∀ (text text' : String) (es es' : List Entry) (c : Configuration), HasEntries text es →
      HasEntries text' es' → Rearranged es es' → parse text = .ok c → parse text' = .ok c) ∧
    (∀ (text : String) (es : List Entry) (c : Configuration), HasEntries text es →
      parse text = .ok c →
        (∃ vs, vs.length = 9 ∧ HasElements (compactArray vs) vs ∧ Lists vs c) ∧
        ∀ text' vs, HasElements text' vs → Lists vs c → parse text' = .ok c) ∧
    (∀ (text : String) (c : Configuration), parse text = .ok c →
      c.validate = .ok () ∧ Usable c) ∧
    (∀ (c : Configuration) (account : Address) (alternate : Option Address) (custody : Address),
      ((∃ client, Client.new c account alternate custody = .ok client) ↔ Usable c) ∧
      ∀ client, Client.new c account alternate custody = .ok client →
        client.configuration = c) ∧
    ∀ client : Client, Usable client.configuration := by
  refine ⟨?_, fun es all => hasEntries_compactObject all,
    fun text es c entries => parse_eq_ok_iff_describes entries, ?_, ?_, ?_, ?_, ?_⟩
  · intro text sp tail c spaces text_eq accepted
    obtain ⟨es, _, entries, -⟩ := exists_entries spaces text_eq accepted
    exact ⟨es, entries, fun es' entries' => entries'.unique entries⟩
  · intro text text' es es' c entries entries' rearranged accepted
    rw [parse_eq_ok_iff_describes entries] at accepted
    rw [parse_eq_ok_iff_describes entries']
    exact ⟨rearranged.describes accepted.1, accepted.2⟩
  · intro text es c entries accepted
    obtain ⟨describes, valid⟩ := (parse_eq_ok_iff_describes entries).1 accepted
    refine ⟨?_, fun text' vs elements lists => lists.parse_eq_ok elements valid⟩
    -- The values of the entries are put in their order, and usual ones are written down.
    obtain ⟨vs, length, lists⟩ := describes.exists_lists
    exact ⟨vs, length, hasElements_compactArray lists.isValue, lists⟩
  · intro text c accepted
    have valid := (parse_eq_ok_iff.1 accepted).2
    exact ⟨valid, usable_iff.2 valid⟩
  · exact fun c account alternate custody =>
      ⟨exists_new_iff, fun client made => configuration_of_new made⟩
  · exact fun client => usable_iff.2 client.valid

theorem layout_independent_minimal :
    compactObject minimalEntries = "\x7b\"chain_id\":1,\"custody\":" ++
      "\"0x0000000000000000000000000000000000000001\",\"challenge_duration\":60\x7d" ∧
    parse (compactObject minimalEntries) = .ok (standard 1 ⟨1⟩ 60) ∧
    parse (compactObject annotatedEntries) = .ok (standard 1 ⟨1⟩ 60) ∧
    parse (compactArray minimalValues) = .ok (standard 1 ⟨1⟩ 60) ∧
    Usable (standard 1 ⟨1⟩ 60) := by
  have chainId : WritesNatural 1 "1".toList :=
    writesNatural_digits (by simp [IsWhole, IsDigits]) rfl
  have duration : WritesNatural 60 "60".toList :=
    writesNatural_digits (by simp [IsWhole, IsDigits]) rfl
  have custody : WritesAddress ⟨1⟩ (quoted "0x0000000000000000000000000000000000000001") :=
    ⟨_, writesText_quoted (by simp), by decide +kernel⟩
  have protocol : (Setting.protocol .v1).WrittenAs (quoted "v1") :=
    WritesProtocol.name (writesText_quoted (by simp [Protocol.key]))
  have note : Spells "note".toList "note" := by
    simpa using @spells_plain "note".toList (by simp)
  have list : IsValue (arrayText [] [⟨[], "true".toList, []⟩]) :=
    .array spaces_nil (List.forall_mem_singleton.2 ⟨spaces_nil, spaces_nil⟩)
      (List.forall_mem_singleton.2 (.word (by simp [words])))
  obtain ⟨-, objects, -, rearranged, arrays, valid, -⟩ := layout_independent
  have required : ∀ e ∈ minimalEntries, e.WellFormed := by
    refine List.forall_mem_cons.2 ⟨(Entry.sets_key .chainId _).wellFormed chainId.isValue, ?_⟩
    refine List.forall_mem_cons.2 ⟨(Entry.sets_key .custody _).wellFormed custody.isValue, ?_⟩
    exact List.forall_mem_singleton.2
      ((Entry.sets_key .challengeDuration _).wellFormed duration.isValue)
  have annotated : ∀ e ∈ annotatedEntries, e.WellFormed := by
    refine List.forall_mem_cons.2 ⟨⟨note.exists_spelling, list⟩, ?_⟩
    refine List.forall_mem_cons.2
      ⟨(Entry.sets_key .protocol _).wellFormed protocol.isValue, fun e he => ?_⟩
    exact required e (List.mem_reverse.1 he)
  have unset : ∀ e ∈ minimalEntries.reverse, ¬e.Sets .protocol := by
    intro e he sets
    simp only [minimalEntries, List.reverse_cons, List.reverse_nil, List.nil_append,
      List.cons_append, List.mem_cons, List.not_mem_nil, or_false] at he
    obtain rfl | rfl | rfl := he
    · cases sets.unique (Entry.sets_key .challengeDuration _)
    · cases sets.unique (Entry.sets_key .custody _)
    · cases sets.unique (Entry.sets_key .chainId _)
  have listed : Lists minimalValues (standard 1 ⟨1⟩ 60) := by
    refine ⟨[.chainId, .custody, .adjudicator, .guest, .challengeDuration],
      [.protocol, .assetLifetime, .nativeSymbol, .nativeDecimals], rfl, ?_, by decide⟩
    exact .cons chainId (.cons custody (.cons .null (.cons .null (.cons duration .nil))))
  have accepted : parse (compactObject minimalEntries) = .ok (standard 1 ⟨1⟩ 60) := by
    decide +kernel
  refine ⟨by decide +kernel, accepted, ?_, ?_, (valid _ _ accepted).2⟩
  · refine rearranged _ _ _ _ _ (objects _ required) (objects _ annotated) ?_ accepted
    refine .trans (.permute (List.reverse_perm minimalEntries).symm)
      (.trans (.writeOut rfl (Entry.sets_key .protocol _) protocol unset) (.insert ?_))
    exact ⟨"note", note, by decide⟩
  · exact (arrays _ _ _ (objects _ required) accepted).2 _ _
      (hasElements_compactArray listed.isValue) listed

end PaymentChannel.Configuration
