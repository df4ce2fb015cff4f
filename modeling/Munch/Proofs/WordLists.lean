import Mathlib.Data.List.Dedup
import Munch.Proofs.EditHistory
import Munch.Proofs.JsonLayout
import Munch.Proofs.SettingsLoading

/-! # What a list of words reserves

Settings may list the words to reserve. The list is taken as a set: neither the order of the words
nor how often each is written makes a difference, unless one of them is no reserved word; then the
first such word is refused, and nothing else in the settings matters. Every set of reserved words can
be listed, and so can one with only one of the truth values. Edits never lead there, for they enter
and remove the two together. -/
set_option autoImplicit false

namespace Munch

/-! ## Everything can be written down -/

namespace Settings

theorem exists_spellsLead (first : Bool) : ∃ text, SpellsLead first text := by
  cases first with
  | true => exact ⟨[], .first nofun⟩
  | false => exact ⟨[] ++ ',' :: [], .later nofun nofun⟩

theorem exists_spellsUpTo {α : Type} {spells : α → Text → Prop}
    (spellable : ∀ value, ∃ text, spells value text) (closing : Char) (first : Bool)
    (values : List α) : ∃ text, SpellsUpTo spells closing first values text := by
  induction values generalizing first with
  | nil => exact ⟨[] ++ [closing], .close nofun⟩
  | cons value rest ih =>
    obtain ⟨before, lead⟩ := exists_spellsLead first
    obtain ⟨front, spelled⟩ := spellable value
    obtain ⟨behind, more⟩ := ih false
    exact ⟨before ++ front ++ behind, .next lead spelled more⟩

theorem exists_spellsValue (part : Part) : ∃ text, SpellsValue part text := by
  cases part with
  | words given =>
    cases given with
    | none => exact ⟨_, .words .null⟩
    | some listed =>
      have word : ∀ word, ∃ text, SpellsString word text :=
        fun word => ⟨Json.quote word, Json.spellsString_quote word⟩
      obtain ⟨text, spelled⟩ := exists_spellsUpTo word ']' true listed
      exact ⟨_, .words (.given (.enclosed spelled))⟩
  | strictNumbers given =>
    cases given with
    | none => exact ⟨_, .strictNumbers .null⟩
    | some strict =>
      cases strict with
      | true => exact ⟨_, .strictNumbers (.given .yes)⟩
      | false => exact ⟨_, .strictNumbers (.given .no)⟩

/-- All settings can be written down, if only as a list of two values. -/
theorem exists_spells (settings : Settings) : ∃ text, Spells settings text := by
  obtain ⟨text, spelled⟩ := exists_spellsUpTo exists_spellsValue ']' true
    [.words settings.words, .strictNumbers settings.strictNumbers]
  have parts := SpellsParts.list (.enclosed spelled) (List.prefix_refl _)
  have gives : Gives [.words settings.words, .strictNumbers settings.strictNumbers] settings :=
    ⟨by simp [eq_comm], by simp [eq_comm]⟩
  have whole : Spells settings ([] ++ _ ++ []) := .parts nofun parts nofun gives
  exact ⟨_, whole⟩

end Settings

/-! ## Words that can be reserved -/

def Reservable (word : Text) : Prop := ∃ kind, WordTable.Spells word kind

def FirstUnknown (listed : List Text) (word : Text) : Prop :=
  ∃ before behind, listed = before ++ word :: behind ∧ (∀ earlier ∈ before, Reservable earlier) ∧
    ¬ Reservable word

theorem ReservedWord.reservable_spelling (reserved : ReservedWord) : Reservable reserved.spelling :=
  ⟨reserved.kind, reserved.spells⟩

theorem Reservable.exists_reserved {word : Text} (known : Reservable word) :
    ∃ reserved : ReservedWord, reserved.spelling = word := by
  obtain ⟨kind, spelled⟩ := known
  obtain ⟨reserved, same, -⟩ := spelled.exists_reserved
  exact ⟨reserved, same⟩

theorem ReservedWord.ofSpelling?_eq_none {word : Text} (unknown : ¬ Reservable word) :
    ofSpelling? word = none := by
  rw [Option.eq_none_iff_forall_ne_some]
  intro reserved found
  rw [← ofSpelling?_eq_some found] at unknown
  exact unknown reserved.reservable_spelling

/-- A list has a first word that cannot be reserved, or it has none. -/
theorem forall_reservable_or_exists_firstUnknown (listed : List Text) :
    (∀ word ∈ listed, Reservable word) ∨ ∃ word, FirstUnknown listed word := by
  induction listed with
  | nil => exact .inl nofun
  | cons first rest ih =>
    by_cases known : Reservable first
    · rcases ih with all | ⟨word, before, behind, rfl, earlier, unknown⟩
      · exact .inl (List.forall_mem_cons.mpr ⟨known, all⟩)
      · exact .inr ⟨word, first :: before, behind, rfl, List.forall_mem_cons.mpr ⟨known, earlier⟩,
          unknown⟩
    · exact .inr ⟨first, [], rest, rfl, nofun, known⟩

namespace Config

/-! ## Reserving the words of a list -/

/-- Words that can be reserved are put into the set, and then the others are tried. -/
theorem exists_reserveAll_append {front : List Text} (known : ∀ word ∈ front, Reservable word)
    (set : WordSet) (behind : List Text) :
    ∃ more, reserveAll set (front ++ behind) = reserveAll more behind ∧
      ∀ reserved, reserved ∈ more ↔ reserved ∈ set ∨ reserved.spelling ∈ front := by
  induction front generalizing set with
  | nil => exact ⟨set, rfl, by simp⟩
  | cons word rest ih =>
    obtain ⟨first, later⟩ := List.forall_mem_cons.mp known
    obtain ⟨added, rfl⟩ := first.exists_reserved
    obtain ⟨more, tried, member⟩ := ih later (set.insert added)
    refine ⟨more, ?_, ?_⟩
    · rw [List.cons_append, reserveAll, ReservedWord.ofSpelling?_spelling]
      exact tried
    · intro reserved
      have same : reserved.spelling = added.spelling ↔ reserved = added :=
        ⟨ReservedWord.spelling_injective, congrArg _⟩
      rw [member, WordSet.mem_insert, List.mem_cons, same]
      exact or_assoc.trans or_left_comm

theorem exists_reserveAll {listed : List Text} (known : ∀ word ∈ listed, Reservable word) :
    ∃ set, reserveAll .empty listed = .ok set ∧
      ∀ reserved, reserved ∈ set ↔ reserved.spelling ∈ listed := by
  obtain ⟨set, tried, member⟩ := exists_reserveAll_append known .empty []
  rw [List.append_nil] at tried
  refine ⟨set, tried, ?_⟩
  intro reserved
  rw [member, or_iff_right (WordSet.not_mem_empty reserved)]

theorem reserveAll_of_firstUnknown {listed : List Text} {word : Text}
    (first : FirstUnknown listed word) (set : WordSet) : reserveAll set listed = .error word := by
  obtain ⟨before, behind, rfl, known, unknown⟩ := first
  obtain ⟨more, tried, -⟩ := exists_reserveAll_append known set (word :: behind)
  rw [tried, reserveAll, ReservedWord.ofSpelling?_eq_none unknown]

end Config

/-! ## Settings that are accepted and settings that are refused -/

/-- Whether settings want a word to be reserved: whether it is listed, or, without a list, whether it
can be reserved at all. -/
def Settings.Wants (settings : Settings) (word : Text) : Prop :=
  match settings.words with
  | none => Reservable word
  | some listed => word ∈ listed

/-- Whether a configuration reserves what settings want, and reads numbers as they say. -/
structure Config.Follows (config : Config) (settings : Settings) : Prop where
  kinds : ∀ word kind, (config.lookup word).map ReservedWord.kind = some kind ↔
    settings.Wants word ∧ WordTable.Spells word kind
  size : config.reserved.size = match settings.words with
    | none => 21
    | some listed => listed.dedup.length
  strict : config.strictNumbers = settings.strictNumbers.getD false

namespace Config

theorem exists_ofSettings {settings : Settings}
    (known : ∀ word, settings.Wants word → Reservable word) :
    ∃ config, ofSettings settings = .ok config ∧
      (∀ reserved, reserved ∈ config.reserved ↔ settings.Wants reserved.spelling) ∧
      config.strictNumbers = settings.strictNumbers.getD false := by
  obtain ⟨words, strict⟩ := settings
  cases words with
  | none =>
    refine ⟨⟨.full, strict.getD false⟩, rfl, ?_, rfl⟩
    intro reserved
    exact iff_of_true (WordSet.mem_full reserved) reserved.reservable_spelling
  | some listed =>
    obtain ⟨set, made, member⟩ := exists_reserveAll known
    refine ⟨⟨set, strict.getD false⟩, ?_, member, rfl⟩
    simp only [ofSettings, made]
    rfl

theorem ofSettings_of_firstUnknown {settings : Settings} {listed : List Text} {word : Text}
    (given : settings.words = some listed) (first : FirstUnknown listed word) :
    ofSettings settings = .error word := by
  simp only [ofSettings, given, reserveAll_of_firstUnknown first]
  rfl

/-- Settings are accepted, or they list a first word that cannot be reserved. -/
theorem forall_wants_or_exists_firstUnknown (settings : Settings) :
    (∀ word, settings.Wants word → Reservable word) ∨
      ∃ listed word, settings.words = some listed ∧ FirstUnknown listed word := by
  obtain ⟨words, strict⟩ := settings
  cases words with
  | none => exact .inl fun _ known => known
  | some listed =>
    rcases forall_reservable_or_exists_firstUnknown listed with known | ⟨word, first⟩
    · exact .inl known
    · exact .inr ⟨listed, word, rfl, first⟩

theorem ofSettings_eq_error_iff {settings : Settings} {word : Text} :
    ofSettings settings = .error word ↔
      ∃ listed, settings.words = some listed ∧ FirstUnknown listed word := by
  constructor
  · intro refused
    rcases forall_wants_or_exists_firstUnknown settings with known | ⟨listed, other, given, first⟩
    · obtain ⟨config, made, -⟩ := exists_ofSettings known
      rw [made] at refused
      contradiction
    · rw [ofSettings_of_firstUnknown given first, Except.error.injEq] at refused
      rw [← refused]
      exact ⟨listed, given, first⟩
  · intro unknown
    obtain ⟨listed, given, first⟩ := unknown
    exact ofSettings_of_firstUnknown given first

theorem exists_ofSettings_eq_error_iff {settings : Settings} :
    (∃ word, ofSettings settings = .error word) ↔
      ∃ word, settings.Wants word ∧ ¬ Reservable word := by
  constructor
  · intro refused
    obtain ⟨word, refused⟩ := refused
    obtain ⟨listed, given, before, behind, rfl, -, unknown⟩ := ofSettings_eq_error_iff.mp refused
    refine ⟨word, ?_, unknown⟩
    rw [Settings.Wants, given]
    exact List.mem_append_right before List.mem_cons_self
  · intro unknown
    obtain ⟨word, wanted, unknown⟩ := unknown
    rcases forall_wants_or_exists_firstUnknown settings with known | ⟨listed, other, given, first⟩
    · exact absurd (known word wanted) unknown
    · exact ⟨other, ofSettings_of_firstUnknown given first⟩

theorem ofSettings_eq_ok_iff {settings : Settings} {config : Config} :
    ofSettings settings = .ok config ↔ (∀ word, settings.Wants word → Reservable word) ∧
      (∀ reserved, reserved ∈ config.reserved ↔ settings.Wants reserved.spelling) ∧
      config.strictNumbers = settings.strictNumbers.getD false := by
  constructor
  · intro accepted
    rcases forall_wants_or_exists_firstUnknown settings with known | ⟨listed, word, given, first⟩
    · obtain ⟨other, made, member, strict⟩ := exists_ofSettings known
      rw [made, Except.ok.injEq] at accepted
      rw [← accepted]
      exact ⟨known, member, strict⟩
    · rw [ofSettings_of_firstUnknown given first] at accepted
      contradiction
  · intro wanted
    obtain ⟨known, member, strict⟩ := wanted
    obtain ⟨other, made, otherMember, otherStrict⟩ := exists_ofSettings known
    have words : other.reserved = config.reserved :=
      WordSet.ext fun reserved => (otherMember reserved).trans (member reserved).symm
    have same : other = config := by
      cases other
      cases config
      rw [mk.injEq]
      exact ⟨words, otherStrict.trans strict.symm⟩
    rw [made, same]

/-! ## The text does not matter -/

theorem load_eq_ok_iff {read : Settings.Reader} (readBy : Settings.declaration.ReadBy read)
    {settings : Settings} {text : Text} (written : settings.Spells text) {config : Config} :
    load read text = .ok config ↔ ofSettings settings = .ok config := by
  rw [load_of_spells readBy written]
  cases ofSettings settings <;> simp [Except.mapError]

theorem load_eq_unknownWord_iff {read : Settings.Reader}
    (readBy : Settings.declaration.ReadBy read) {settings : Settings} {text : Text}
    (written : settings.Spells text) {word : Text} :
    load read text = .error (.unknownWord word) ↔ ofSettings settings = .error word := by
  rw [load_of_spells readBy written]
  cases ofSettings settings <;> simp [Except.mapError]

end Config

/-! ## Counting -/

theorem WordSet.nodup_map_spelling (set : WordSet) :
    (set.words.map ReservedWord.spelling).Nodup := by
  have once : ReservedWord.all.Nodup := by decide
  have sorted : set.words.Nodup := by
    rw [set.canonical]
    exact once.filter _
  exact sorted.map fun _ _ same => ReservedWord.spelling_injective same

/-- A set whose words are those of a list has as many words as the list has different ones. -/
theorem WordSet.size_eq_length_dedup {set : WordSet} {listed : List Text}
    (known : ∀ word ∈ listed, Reservable word)
    (member : ∀ reserved, reserved ∈ set ↔ reserved.spelling ∈ listed) :
    set.size = listed.dedup.length := by
  -- Both lists hold the same words, each once.
  have alike : (set.words.map ReservedWord.spelling).Perm listed.dedup := by
    rw [List.perm_ext_iff_of_nodup set.nodup_map_spelling listed.nodup_dedup]
    intro word
    rw [List.mem_map, List.mem_dedup]
    constructor
    · intro reserved
      obtain ⟨reserved, inside, rfl⟩ := reserved
      exact (member reserved).mp inside
    · intro inside
      obtain ⟨reserved, rfl⟩ := (known word inside).exists_reserved
      exact ⟨reserved, (member reserved).mpr inside, rfl⟩
  rw [← alike.length_eq, List.length_map, WordSet.size]

theorem WordSet.size_full : full.size = 21 := by decide

namespace Config

theorem map_lookup_eq_some_iff {config : Config} {word : Text} {kind : Kind} :
    (config.lookup word).map ReservedWord.kind = some kind ↔
      ∃ reserved ∈ config.reserved, reserved.spelling = word ∧ reserved.kind = kind := by
  rw [Option.map_eq_some_iff]
  refine exists_congr fun reserved => ?_
  rw [lookup, WordSet.find?_eq_some_iff, and_assoc]

theorem follows_of_mem_iff {config : Config} {settings : Settings}
    (known : ∀ word, settings.Wants word → Reservable word)
    (member : ∀ reserved, reserved ∈ config.reserved ↔ settings.Wants reserved.spelling)
    (strict : config.strictNumbers = settings.strictNumbers.getD false) :
    config.Follows settings where
  kinds := by
    intro word kind
    rw [map_lookup_eq_some_iff]
    constructor
    · intro entered
      obtain ⟨reserved, inside, rfl, rfl⟩ := entered
      exact ⟨(member reserved).mp inside, reserved.spells⟩
    · intro wanted
      obtain ⟨wanted, spelled⟩ := wanted
      obtain ⟨reserved, rfl, rfl⟩ := spelled.exists_reserved
      exact ⟨reserved, (member reserved).mpr wanted, rfl, rfl⟩
  size := by
    obtain ⟨words, flag⟩ := settings
    cases words with
    | none =>
      have whole : config.reserved = .full := by
        apply WordSet.ext
        intro reserved
        rw [member]
        exact iff_of_true reserved.reservable_spelling (WordSet.mem_full reserved)
      rw [whole, WordSet.size_full]
    | some listed => exact WordSet.size_eq_length_dedup known member
  strict := strict

/-! ## What edits can build -/

def editsTo (config : Config) : List Edit :=
  .clearWords ::
    ((Keyword.all.filter fun word => decide (.keyword word ∈ config.reserved)).map .reserve ++
      [.booleans (decide (.boolean true ∈ config.reserved)), .strictNumbers config.strictNumbers])

theorem setting_foldl_reserve (words : List Keyword) (config : Config) (topic : Topic) :
    ((words.map .reserve).foldl edit config).setting topic =
      (words.any (fun word => (Edit.reserve word).concerns topic) || config.setting topic) := by
  induction words generalizing config with
  | nil => rfl
  | cons word rest ih =>
    rw [List.map_cons, List.foldl_cons, ih, setting_edit, List.any_cons]
    cases (Edit.reserve word).concerns topic with
    | true => simp [Edit.enables]
    | false => simp

theorem any_reserve_concerns (words : List Keyword) (word : Keyword) :
    words.any (fun other => (Edit.reserve other).concerns (.word (.keyword word))) =
      decide (word ∈ words) := by
  rw [Bool.eq_iff_iff, List.any_eq_true, decide_eq_true_iff]
  simp [Edit.concerns]

theorem build_editsTo {config : Config}
    (pair : .boolean true ∈ config.reserved ↔ .boolean false ∈ config.reserved) :
    build config.editsTo = config := by
  apply eq_of_setting_eq
  intro topic
  rw [editsTo, build, List.foldl_cons, List.foldl_append, List.foldl_cons, List.foldl_cons,
    List.foldl_nil, setting_edit, setting_edit, setting_foldl_reserve, setting_edit]
  cases topic with
  | strictness => rfl
  | word reserved =>
    cases reserved with
    | keyword word =>
      rw [any_reserve_concerns]
      simp [Edit.concerns, Edit.enables, setting, Keyword.mem_all]
    | boolean value =>
      cases value with
      | true => rfl
      | false => exact decide_eq_decide.mpr pair

/-- Edits treat the two truth values alike. -/
theorem setting_build_boolean (edits : List Edit) (value : Bool) :
    (build edits).setting (.word (.boolean value)) =
      (build edits).setting (.word (.boolean true)) := by
  rw [setting_build, setting_build, outcome, outcome, Edit.lastOn_boolean, setting_default_word,
    setting_default_word]

theorem exists_build_eq_iff {config : Config} : (∃ edits, build edits = config) ↔
    (.boolean true ∈ config.reserved ↔ .boolean false ∈ config.reserved) := by
  constructor
  · intro built
    obtain ⟨edits, rfl⟩ := built
    exact decide_eq_decide.mp (setting_build_boolean edits false).symm
  · intro pair
    exact ⟨config.editsTo, build_editsTo pair⟩

end Config

/-! ## Lists of words -/

/-- How settings are loaded with a reader, in whatever text they are written. -/
structure Settings.Loads (read : Settings.Reader) (settings : Settings) : Prop where
  written : ∃ text, settings.Spells text
  refused : ∀ text, settings.Spells text →
    ((∃ word, Config.load read text = .error (.unknownWord word)) ↔
      ∃ word, settings.Wants word ∧ ¬ Reservable word)
  first : ∀ text word, settings.Spells text →
    (Config.load read text = .error (.unknownWord word) ↔
      ∃ listed, settings.words = some listed ∧ FirstUnknown listed word)
  accepted : ∀ text, settings.Spells text → (∀ word, settings.Wants word → Reservable word) →
    ∃ config, Config.load read text = .ok config ∧ config.Follows settings
  same : ∀ (other : Settings) text otherText config, settings.Spells text →
    other.Spells otherText → Config.load read text = .ok config →
      (Config.load read otherText = .ok config ↔
        (∀ word, settings.Wants word ↔ other.Wants word) ∧
          settings.strictNumbers.getD false = other.strictNumbers.getD false)

theorem Settings.loads {read : Settings.Reader} (readBy : Settings.declaration.ReadBy read)
    (settings : Settings) : settings.Loads read where
  written := exists_spells settings
  refused := by
    intro text written
    simp only [Config.load_eq_unknownWord_iff readBy written]
    exact Config.exists_ofSettings_eq_error_iff
  first := by
    intro text word written
    rw [Config.load_eq_unknownWord_iff readBy written]
    exact Config.ofSettings_eq_error_iff
  accepted := by
    intro text written known
    obtain ⟨config, made, member, strict⟩ := Config.exists_ofSettings known
    exact ⟨config, (Config.load_eq_ok_iff readBy written).mpr made,
      Config.follows_of_mem_iff known member strict⟩
  same := by
    intro other text otherText config written otherWritten loaded
    rw [Config.load_eq_ok_iff readBy written, Config.ofSettings_eq_ok_iff] at loaded
    obtain ⟨known, member, strict⟩ := loaded
    rw [Config.load_eq_ok_iff readBy otherWritten, Config.ofSettings_eq_ok_iff]
    constructor
    · intro otherLoaded
      obtain ⟨otherKnown, otherMember, otherStrict⟩ := otherLoaded
      refine ⟨?_, strict.symm.trans otherStrict⟩
      -- Neither list has a word that is not the spelling of a reserved word.
      intro word
      constructor
      · intro wanted
        obtain ⟨reserved, rfl⟩ := (known word wanted).exists_reserved
        exact (otherMember reserved).mp ((member reserved).mpr wanted)
      · intro wanted
        obtain ⟨reserved, rfl⟩ := (otherKnown word wanted).exists_reserved
        exact (member reserved).mp ((otherMember reserved).mpr wanted)
    · intro alike
      obtain ⟨wants, flag⟩ := alike
      refine ⟨?_, ?_, strict.trans flag⟩
      · intro word wanted
        exact known word ((wants word).mpr wanted)
      · intro reserved
        exact (member reserved).trans (wants reserved.spelling)

/-- How a configuration can be come by: always by a list of its words, and by edits if it does not
reserve one truth value without the other. -/
structure Config.Obtainable (read : Settings.Reader) (config : Config) : Prop where
  listed : ∃ text, Settings.Spells
    ⟨some (config.reserved.words.map ReservedWord.spelling), some config.strictNumbers⟩ text ∧
      load read text = .ok config
  edited : (∃ edits, build edits = config) ↔
    (.boolean true ∈ config.reserved ↔ .boolean false ∈ config.reserved)

theorem Config.obtainable {read : Settings.Reader} (readBy : Settings.declaration.ReadBy read)
    (config : Config) : config.Obtainable read where
  listed := by
    obtain ⟨text, written⟩ := Settings.exists_spells
      ⟨some (config.reserved.words.map ReservedWord.spelling), some config.strictNumbers⟩
    refine ⟨text, written, ?_⟩
    rw [load_eq_ok_iff readBy written, ofSettings_eq_ok_iff]
    refine ⟨?_, ?_, rfl⟩
    · intro word wanted
      obtain ⟨reserved, -, rfl⟩ := List.mem_map.mp wanted
      exact reserved.reservable_spelling
    · intro reserved
      exact (List.mem_map_of_injective fun _ _ => ReservedWord.spelling_injective).symm
  edited := exists_build_eq_iff

/-- Whatever reads settings, they decide by the words that they list and by their flag, and nothing
that can be reserved is out of their reach. -/
theorem loads_and_obtainable {read : Settings.Reader} (readBy : Settings.declaration.ReadBy read)
    (settings : Settings) (config : Config) : settings.Loads read ∧ config.Obtainable read :=
  ⟨settings.loads readBy, config.obtainable readBy⟩

/-- Settings with a word that cannot be reserved, and a configuration that no edits build. -/
theorem loads_and_obtainable_class : Settings.declaration.ReadBy Settings.read ∧
    Settings.Loads Settings.read ⟨some ["let".toList, "class".toList], none⟩ ∧
      Config.Obtainable Settings.read ⟨WordSet.empty.insert (.boolean true), false⟩ :=
  ⟨Settings.readBy_read, loads_and_obtainable Settings.readBy_read _ _⟩

/-- One truth value can be listed without the other, and cannot be left so by edits. -/
example : (∃ text, Config.ofText text = .ok ⟨WordSet.empty.insert (.boolean true), false⟩) ∧
    ∀ edits, Config.build edits ≠ ⟨WordSet.empty.insert (.boolean true), false⟩ := by
  obtain ⟨text, -, loaded⟩ := (Config.obtainable Settings.readBy_read
    ⟨WordSet.empty.insert (.boolean true), false⟩).listed
  refine ⟨⟨text, loaded⟩, ?_⟩
  intro edits built
  have pair := Config.exists_build_eq_iff.mp ⟨edits, built⟩
  exact absurd pair (by decide)

end Munch
