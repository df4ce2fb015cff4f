import Mathlib.Data.List.Induction
import Munch.Proofs.WordTables

/-! # The last edit decides

Edits overwrite one another: clearing takes every word away, and later edits bring words back one by
one or in a pair. What is built can still be read off the edits without making them. Every edit is
about some words, or about how numbers are read, and of those about one topic only the last counts;
where there is none, the default stays. So edits that have no topic in common can change places. -/
set_option autoImplicit false

namespace Munch

inductive Topic where
  | word (reserved : ReservedWord)
  | strictness
deriving DecidableEq

namespace Edit

/-- Whether an edit is about a topic. Clearing is about every word, and the truth values have their
edits in common. -/
def concerns : Edit → Topic → Bool
  | .clearWords, .word _ => true
  | .reserve word, .word reserved => reserved = .keyword word
  | .release word, .word reserved => reserved = .keyword word
  | .booleans _, .word (.boolean _) => true
  | .strictNumbers _, .strictness => true
  | _, _ => false

def enables : Edit → Bool
  | .clearWords => false
  | .reserve _ => true
  | .release _ => false
  | .booleans enabled => enabled
  | .strictNumbers strict => strict

def lastOn (topic : Topic) (edits : List Edit) : Option Edit :=
  (edits.filter fun made => made.concerns topic).getLast?

def Apart (first second : Edit) : Prop :=
  ∀ topic, ¬ (first.concerns topic = true ∧ second.concerns topic = true)

theorem lastOn_concat (topic : Topic) (edits : List Edit) (made : Edit) :
    lastOn topic (edits ++ [made]) =
      if made.concerns topic then some made else lastOn topic edits := by
  rw [lastOn, List.filter_append]
  cases about : made.concerns topic <;> simp [about, lastOn]

theorem concerns_of_lastOn {topic : Topic} {edits : List Edit} {made : Edit}
    (last : lastOn topic edits = some made) : made.concerns topic = true := by
  have member := List.mem_of_getLast? last
  exact (List.mem_filter.mp member).2

theorem filter_concerns_eq_nil {first second : List Edit}
    (apart : ∀ made ∈ first, ∀ other ∈ second, made.Apart other) (topic : Topic) :
    (first.filter fun made => made.concerns topic) = [] ∨
      (second.filter fun other => other.concerns topic) = [] := by
  by_contra both
  obtain ⟨some, otherSome⟩ := not_or.mp both
  obtain ⟨made, member⟩ := List.exists_mem_of_ne_nil _ some
  obtain ⟨other, otherMember⟩ := List.exists_mem_of_ne_nil _ otherSome
  obtain ⟨inside, about⟩ := List.mem_filter.mp member
  obtain ⟨otherInside, otherAbout⟩ := List.mem_filter.mp otherMember
  exact apart made inside other otherInside topic ⟨about, otherAbout⟩

/-- Edits that have no topic in common can change places without another edit becoming the last. -/
theorem lastOn_swap {first second : List Edit}
    (apart : ∀ made ∈ first, ∀ other ∈ second, made.Apart other) (topic : Topic)
    (before behind : List Edit) : lastOn topic (before ++ (first ++ second) ++ behind) =
      lastOn topic (before ++ (second ++ first) ++ behind) := by
  simp only [lastOn, List.filter_append]
  rcases filter_concerns_eq_nil apart topic with none | none
  · rw [none, List.nil_append, List.append_nil]
  · rw [none, List.nil_append, List.append_nil]

end Edit

namespace Config

/-! ## One edit -/

def setting (config : Config) : Topic → Bool
  | .word reserved => decide (reserved ∈ config.reserved)
  | .strictness => config.strictNumbers

theorem eq_of_setting_eq {first second : Config}
    (same : ∀ topic, first.setting topic = second.setting topic) : first = second := by
  have words : first.reserved = second.reserved :=
    WordSet.ext fun reserved => decide_eq_decide.mp (same (.word reserved))
  have strict : first.strictNumbers = second.strictNumbers := same .strictness
  cases first
  cases second
  rw [mk.injEq]
  exact ⟨words, strict⟩

/-- An edit decides the topics that it is about, and leaves the others as they are. -/
theorem setting_edit (config : Config) (made : Edit) (topic : Topic) :
    (config.edit made).setting topic =
      if made.concerns topic then made.enables else config.setting topic := by
  cases topic with
  | strictness =>
    cases made with
    | booleans enabled => cases enabled <;> rfl
    | _ => rfl
  | word reserved =>
    cases made with
    | clearWords => simp [edit, setting, Edit.concerns, Edit.enables]
    | reserve word =>
      by_cases same : reserved = .keyword word <;>
        simp [edit, setting, Edit.concerns, Edit.enables, same]
    | release word =>
      by_cases same : reserved = .keyword word <;>
        simp [edit, setting, Edit.concerns, Edit.enables, same]
    | booleans enabled =>
      cases reserved with
      | keyword word =>
        cases enabled <;> simp [edit, setting, Edit.concerns]
      | boolean value =>
        cases enabled <;> cases value <;> simp [edit, setting, Edit.concerns, Edit.enables]
    | strictNumbers strict => rfl

/-! ## Any edits -/

/-- What edits make of a topic: what the last edit about it says, or the default. -/
def outcome (edits : List Edit) (topic : Topic) : Bool :=
  match Edit.lastOn topic edits with
  | some made => made.enables
  | none => default.setting topic

theorem build_concat (edits : List Edit) (made : Edit) :
    build (edits ++ [made]) = (build edits).edit made := by
  rw [build, List.foldl_append]
  rfl

theorem outcome_concat (edits : List Edit) (made : Edit) (topic : Topic) :
    outcome (edits ++ [made]) topic =
      if made.concerns topic then made.enables else outcome edits topic := by
  rw [outcome, Edit.lastOn_concat]
  cases made.concerns topic <;> rfl

theorem setting_build (edits : List Edit) (topic : Topic) :
    (build edits).setting topic = outcome edits topic := by
  induction edits using List.reverseRecOn with
  | nil => rfl
  | append_singleton edits made ih => rw [build_concat, setting_edit, outcome_concat, ih]

theorem build_eq_iff {edits others : List Edit} :
    build edits = build others ↔ ∀ topic, outcome edits topic = outcome others topic := by
  constructor
  · intro same topic
    rw [← setting_build, ← setting_build, same]
  · intro same
    apply eq_of_setting_eq
    intro topic
    rw [setting_build, setting_build, same]

end Config

/-! ## Which edits can be the last -/

namespace Edit

theorem enables_iff_of_keyword {word : Keyword} {made : Edit}
    (about : made.concerns (.word (.keyword word)) = true) :
    made.enables = true ↔ made = .reserve word := by
  cases made with
  | clearWords => simp [enables]
  | reserve other =>
    have same : word = other := by simpa [concerns] using about
    simp [enables, same]
  | release other => simp [enables]
  | booleans enabled => simp [concerns] at about
  | strictNumbers strict => simp [concerns] at about

theorem enables_iff_of_boolean {value : Bool} {made : Edit}
    (about : made.concerns (.word (.boolean value)) = true) :
    made.enables = true ↔ made = .booleans true := by
  cases made with
  | clearWords => simp [enables]
  | reserve word => simp [concerns] at about
  | release word => simp [concerns] at about
  | booleans enabled => simp [enables]
  | strictNumbers strict => simp [concerns] at about

theorem enables_iff_of_strictness {made : Edit} (about : made.concerns .strictness = true) :
    made.enables = true ↔ made = .strictNumbers true := by
  cases made with
  | strictNumbers strict => simp [enables]
  | _ => simp [concerns] at about

/-- The two truth values have all their edits in common. -/
theorem lastOn_boolean (value : Bool) (edits : List Edit) :
    lastOn (.word (.boolean value)) edits = lastOn (.word (.boolean true)) edits := by
  have about : ∀ made : Edit,
      made.concerns (.word (.boolean value)) = made.concerns (.word (.boolean true)) := by
    intro made
    cases made <;> simp [concerns]
  simp only [lastOn, about]

end Edit

namespace Config

/-- Where one edit alone can enable a topic, the topic is enabled if that is the last edit about it,
or by default. -/
theorem outcome_eq_true_iff {edits : List Edit} {topic : Topic} {winner : Edit}
    (wins : ∀ made : Edit, made.concerns topic = true → (made.enables = true ↔ made = winner)) :
    outcome edits topic = true ↔ Edit.lastOn topic edits = some winner ∨
      Edit.lastOn topic edits = none ∧ default.setting topic = true := by
  rw [outcome]
  cases last : Edit.lastOn topic edits with
  | none => simp
  | some made => simp [wins made (Edit.concerns_of_lastOn last)]

theorem setting_default_word (reserved : ReservedWord) :
    default.setting (.word reserved) = true :=
  decide_eq_true (WordSet.mem_full reserved)

theorem isSome_lookup_spelling (config : Config) (reserved : ReservedWord) :
    (config.lookup reserved.spelling).isSome = config.setting (.word reserved) := by
  rw [setting, Bool.eq_iff_iff, Option.isSome_iff_exists, decide_eq_true_iff]
  constructor
  · rintro ⟨other, found⟩
    obtain ⟨member, spelled⟩ := WordSet.find?_eq_some_iff.mp found
    rw [← ReservedWord.spelling_injective spelled]
    exact member
  · intro member
    exact ⟨reserved, WordSet.find?_eq_some_iff.mpr ⟨member, rfl⟩⟩

theorem isSome_lookup_build (edits : List Edit) (reserved : ReservedWord) :
    ((build edits).lookup reserved.spelling).isSome = outcome edits (.word reserved) := by
  rw [isSome_lookup_spelling, setting_build]

end Config

/-! ## How many words are reserved -/

theorem ReservedWord.all_perm :
    all.Perm (Keyword.all.map keyword ++ [boolean true, boolean false]) := by
  decide

theorem WordSet.size_eq_countP (set : WordSet) :
    set.size = ReservedWord.all.countP fun reserved => decide (reserved ∈ set) := by
  rw [List.countP_eq_length_filter]
  exact congrArg List.length set.canonical

theorem Config.size_reserved (config : Config) : config.reserved.size =
    Keyword.all.countP (fun word => config.setting (.word (.keyword word))) +
      [true, false].countP fun value => config.setting (.word (.boolean value)) := by
  rw [WordSet.size_eq_countP, ReservedWord.all_perm.countP_eq, List.countP_append, List.countP_map]
  rfl

/-! ## The last edit decides -/

/-- Whether what edits build is what the last of them say on each topic. -/
structure LastEditDecides (edits : List Edit) : Prop where
  keyword : ∀ word : Keyword, ((Config.build edits).lookup word.spelling).isSome = true ↔
    Edit.lastOn (.word (.keyword word)) edits = some (.reserve word) ∨
      Edit.lastOn (.word (.keyword word)) edits = none
  boolean : ∀ value, ((Config.build edits).lookup (Kind.truthWord value)).isSome = true ↔
    Edit.lastOn (.word (.boolean true)) edits = some (.booleans true) ∨
      Edit.lastOn (.word (.boolean true)) edits = none
  strictness : (Config.build edits).strictNumbers = true ↔
    Edit.lastOn .strictness edits = some (.strictNumbers true)
  size : (Config.build edits).reserved.size =
    Keyword.all.countP (fun word => Config.outcome edits (.word (.keyword word))) +
      if Config.outcome edits (.word (.boolean true)) then 2 else 0
  same : ∀ others, Config.build edits = Config.build others ↔
    ∀ topic, Config.outcome edits topic = Config.outcome others topic
  commute : ∀ first second behind, (∀ made ∈ first, ∀ other ∈ second, Edit.Apart made other) →
    Config.build (edits ++ (first ++ second) ++ behind) =
      Config.build (edits ++ (second ++ first) ++ behind)

/-- Whatever edits are made, the last edit on a topic decides it. -/
theorem lastEditDecides_build (edits : List Edit) : LastEditDecides edits where
  keyword := by
    intro word
    have spelled : ((Config.build edits).lookup word.spelling).isSome =
        Config.outcome edits (.word (.keyword word)) :=
      Config.isSome_lookup_build edits (.keyword word)
    rw [spelled, Config.outcome_eq_true_iff fun _ about => Edit.enables_iff_of_keyword about]
    simp only [Config.setting_default_word, and_true]
  boolean := by
    intro value
    have spelled : ((Config.build edits).lookup (Kind.truthWord value)).isSome =
        Config.outcome edits (.word (.boolean value)) :=
      Config.isSome_lookup_build edits (.boolean value)
    rw [spelled, Config.outcome_eq_true_iff fun _ about => Edit.enables_iff_of_boolean about,
      Edit.lastOn_boolean]
    simp only [Config.setting_default_word, and_true]
  strictness := by
    have strict : (Config.build edits).strictNumbers = Config.outcome edits .strictness :=
      Config.setting_build edits .strictness
    have lenient : Config.default.setting .strictness = false := rfl
    rw [strict, Config.outcome_eq_true_iff fun _ about => Edit.enables_iff_of_strictness about,
      lenient]
    simp only [Bool.false_eq_true, and_false, or_false]
  size := by
    have pair : ∀ value, Config.outcome edits (.word (.boolean value)) =
        Config.outcome edits (.word (.boolean true)) := by
      intro value
      rw [Config.outcome, Edit.lastOn_boolean, Config.setting_default_word, Config.outcome,
        Config.setting_default_word]
    simp only [Config.size_reserved, Config.setting_build, pair]
    cases Config.outcome edits (.word (.boolean true)) <;> rfl
  same := by
    intro others
    exact Config.build_eq_iff
  commute := by
    intro first second behind apart
    rw [Config.build_eq_iff]
    intro topic
    rw [Config.outcome, Edit.lastOn_swap apart, Config.outcome]

end Munch
