import Mathlib.Logic.Function.Basic
import Munch.Config.Loading

/-! # Tables of reserved words

What a configuration reserves can be written down as a table: words by their spelling, each with the
kind under which it was entered. Edits and settings write into such a table, entry by entry, and
nothing in it ties a kind to its word. A configuration keeps a set of reserved words instead. Here
each write is followed on both sides, so that a configuration always looks up what was written for
it; and since the set knows no other entries, whatever was written is sound. -/
set_option autoImplicit false

namespace Munch

abbrev WordTable := Text → Option Kind

namespace WordTable

def empty : WordTable := fun _ => none

def enter (table : WordTable) (word : Text) (kind : Kind) : WordTable :=
  Function.update table word (some kind)

def strike (table : WordTable) (word : Text) : WordTable := Function.update table word none

def enterKeyword (table : WordTable) (word : Keyword) : WordTable :=
  table.enter word.spelling (.keyword word)

def enterBoolean (table : WordTable) (value : Bool) : WordTable :=
  table.enter (Kind.truthWord value) (.boolean value)

def full : WordTable :=
  ((Keyword.all.foldl enterKeyword empty).enterBoolean true).enterBoolean false

def edit (table : WordTable) : Edit → WordTable
  | .clearWords => empty
  | .reserve word => table.enterKeyword word
  | .release word => table.strike word.spelling
  | .booleans true => (table.enterBoolean true).enterBoolean false
  | .booleans false => (table.strike (Kind.truthWord true)).strike (Kind.truthWord false)
  | .strictNumbers _ => table

def listedKind? (word : Text) : Option Kind :=
  if word = "true".toList then some (.boolean true)
  else if word = "false".toList then some (.boolean false)
  else (Keyword.ofSpelling? word).map .keyword

/-- A table after one word of a list; a word that cannot be reserved enters nothing. -/
def enterListed (table : WordTable) (word : Text) : WordTable :=
  match listedKind? word with
  | some kind => table.enter word kind
  | none => table

def ofSettings (settings : Settings) : WordTable :=
  match settings.words with
  | none => full
  | some words => words.foldl enterListed empty

def ofText (read : Settings.Reader) (text : Text) : WordTable :=
  match read text with
  | .ok settings => ofSettings settings
  | .error _ => empty

inductive Spells : Text → Kind → Prop where
  | keyword (word : Keyword) : Spells word.spelling (.keyword word)
  | boolean (value : Bool) : Spells (Kind.truthWord value) (.boolean value)

theorem Spells.eq_spelling {text : Text} {word : Keyword} (spelled : Spells text (.keyword word)) :
    text = word.spelling := by
  cases spelled
  rfl

theorem Spells.eq_truthWord {text : Text} {value : Bool} (spelled : Spells text (.boolean value)) :
    text = Kind.truthWord value := by
  cases spelled
  rfl

theorem Spells.ne_identifier {text : Text} {kind : Kind} (spelled : Spells text kind) :
    kind ≠ .identifier := by
  cases spelled <;> nofun

/-- Whether every word of a table is entered under a kind that it spells. -/
def Sound (table : WordTable) : Prop := ∀ word kind, table word = some kind → Spells word kind

end WordTable

theorem ReservedWord.spelling_injective {first second : ReservedWord}
    (same : first.spelling = second.spelling) : first = second := by
  have found := ofSpelling?_spelling first
  rw [same, ofSpelling?_spelling] at found
  exact (Option.some.inj found).symm

theorem ReservedWord.spells (reserved : ReservedWord) :
    WordTable.Spells reserved.spelling reserved.kind := by
  cases reserved with
  | keyword word => exact .keyword word
  | boolean value => exact .boolean value

theorem WordTable.Spells.exists_reserved {text : Text} {kind : Kind}
    (spelled : WordTable.Spells text kind) :
    ∃ reserved : ReservedWord, reserved.spelling = text ∧ reserved.kind = kind := by
  cases spelled with
  | keyword word => exact ⟨.keyword word, rfl, rfl⟩
  | boolean value => exact ⟨.boolean value, rfl, rfl⟩

/-- A word can be entered under one kind only. -/
theorem WordTable.Spells.unique {text : Text} {kind other : Kind}
    (spelled : WordTable.Spells text kind) (again : WordTable.Spells text other) : kind = other := by
  obtain ⟨reserved, same, rfl⟩ := spelled.exists_reserved
  obtain ⟨second, otherSame, rfl⟩ := again.exists_reserved
  rw [← otherSame] at same
  rw [ReservedWord.spelling_injective same]

/-! ## The table of a set -/

namespace WordSet

def table (set : WordSet) : WordTable := fun word =>
  (set.words.find? fun reserved => reserved.spelling == word).map ReservedWord.kind

/-- A word is found by its spelling, and no other word has that spelling. -/
theorem find?_eq_some_iff {set : WordSet} {word : Text} {reserved : ReservedWord} :
    (set.words.find? fun other => other.spelling == word) = some reserved ↔
      reserved ∈ set ∧ reserved.spelling = word := by
  constructor
  · intro found
    have spelled : reserved.spelling = word := by simpa using List.find?_some found
    exact ⟨List.mem_of_find?_eq_some found, spelled⟩
  · rintro ⟨member, rfl⟩
    cases found : set.words.find? fun other => other.spelling == reserved.spelling with
    | none =>
      have refused := List.find?_eq_none.mp found reserved member
      simp at refused
    | some other =>
      have spelled : other.spelling = reserved.spelling := by simpa using List.find?_some found
      rw [ReservedWord.spelling_injective spelled]

theorem table_spelling {set : WordSet} {reserved : ReservedWord} (member : reserved ∈ set) :
    set.table reserved.spelling = some reserved.kind := by
  rw [table, find?_eq_some_iff.mpr ⟨member, rfl⟩]
  rfl

theorem table_eq_none {set : WordSet} {word : Text}
    (absent : ∀ reserved ∈ set, reserved.spelling ≠ word) : set.table word = none := by
  rw [table, Option.map_eq_none_iff, List.find?_eq_none]
  intro reserved member
  simpa using absent reserved member

theorem sound_table (set : WordSet) : set.table.Sound := by
  intro word kind entered
  obtain ⟨reserved, found, rfl⟩ := Option.map_eq_some_iff.mp entered
  obtain ⟨-, rfl⟩ := find?_eq_some_iff.mp found
  exact reserved.spells

/-- Only the words of one spelling matter to what a table holds for it. -/
theorem table_congr {first second : WordSet} {word : Text}
    (same : ∀ reserved, reserved.spelling = word → (reserved ∈ first ↔ reserved ∈ second)) :
    first.table word = second.table word := by
  by_cases present : ∃ reserved ∈ first, reserved.spelling = word
  · obtain ⟨reserved, member, rfl⟩ := present
    rw [table_spelling member, table_spelling ((same reserved rfl).mp member)]
  · have absent : ∀ reserved ∈ first, reserved.spelling ≠ word := by
      intro reserved member spelled
      exact present ⟨reserved, member, spelled⟩
    rw [table_eq_none absent, table_eq_none]
    intro reserved member spelled
    exact absent reserved ((same reserved spelled).mpr member) spelled

theorem table_empty : empty.table = WordTable.empty := by
  funext word
  exact table_eq_none fun reserved member => absurd member (not_mem_empty reserved)

theorem table_insert (set : WordSet) (added : ReservedWord) :
    (set.insert added).table = set.table.enter added.spelling added.kind := by
  funext word
  by_cases spelled : word = added.spelling
  · subst spelled
    rw [table_spelling (mem_insert.mpr (Or.inl rfl)), WordTable.enter, Function.update_self]
  · rw [WordTable.enter, Function.update_of_ne spelled]
    apply table_congr
    rintro reserved rfl
    have different : reserved ≠ added := fun same => spelled (congrArg _ same)
    simp [different]

theorem table_erase (set : WordSet) (removed : ReservedWord) :
    (set.erase removed).table = set.table.strike removed.spelling := by
  funext word
  by_cases spelled : word = removed.spelling
  · subst spelled
    rw [WordTable.strike, Function.update_self]
    apply table_eq_none
    intro reserved member same
    exact (mem_erase.mp member).1 (ReservedWord.spelling_injective same)
  · rw [WordTable.strike, Function.update_of_ne spelled]
    apply table_congr
    rintro reserved rfl
    have different : reserved ≠ removed := fun same => spelled (congrArg _ same)
    simp [different]

theorem table_insertKeywords (words : List Keyword) (set : WordSet) :
    (words.foldl (fun set word => set.insert (.keyword word)) set).table =
      words.foldl WordTable.enterKeyword set.table := by
  induction words generalizing set with
  | nil => rfl
  | cons word rest ih =>
    rw [List.foldl_cons, List.foldl_cons, ih, table_insert]
    rfl

/-- The full set is what comes of putting in all keywords and both truth values. -/
theorem full_eq_insert : full =
    ((Keyword.all.foldl (fun set word => set.insert (.keyword word)) empty).insert
      (.boolean true)).insert (.boolean false) := by
  apply ext
  intro reserved
  cases reserved with
  | keyword word => cases word <;> simp [Keyword.all]
  | boolean value => cases value <;> simp

theorem table_full : full.table = WordTable.full := by
  rw [full_eq_insert, table_insert, table_insert, table_insertKeywords, table_empty]
  rfl

end WordSet

/-! ## Edits and settings -/

namespace Config

theorem table_edit (config : Config) (made : Edit) :
    (config.edit made).reserved.table = config.reserved.table.edit made := by
  cases made with
  | clearWords => exact WordSet.table_empty
  | reserve word => exact WordSet.table_insert config.reserved (.keyword word)
  | release word => exact WordSet.table_erase config.reserved (.keyword word)
  | booleans enabled =>
    cases enabled with
    | true =>
      rw [edit, WordSet.table_insert, WordSet.table_insert]
      rfl
    | false =>
      rw [edit, WordSet.table_erase, WordSet.table_erase]
      rfl
  | strictNumbers strict => rfl

theorem table_foldl_edit (edits : List Edit) (config : Config) :
    (edits.foldl edit config).reserved.table =
      edits.foldl WordTable.edit config.reserved.table := by
  induction edits generalizing config with
  | nil => rfl
  | cons made rest ih => rw [List.foldl_cons, List.foldl_cons, ih, table_edit]

theorem table_build (edits : List Edit) :
    (build edits).reserved.table = edits.foldl WordTable.edit .full := by
  rw [build, table_foldl_edit, ← WordSet.table_full]
  rfl

/-- A listed word is entered under the kind of the reserved word that it spells. -/
theorem listedKind?_eq (word : Text) :
    WordTable.listedKind? word = (ReservedWord.ofSpelling? word).map ReservedWord.kind := by
  cases found : ReservedWord.ofSpelling? word with
  | some reserved =>
    obtain rfl := ReservedWord.ofSpelling?_eq_some found
    cases reserved with
    | keyword word => cases word <;> rfl
    | boolean value => cases value <;> rfl
  | none =>
    have unspelled : ∀ reserved : ReservedWord, word ≠ reserved.spelling := by
      rintro reserved rfl
      rw [ReservedWord.ofSpelling?_spelling] at found
      contradiction
    have noKeyword : Keyword.ofSpelling? word = none := by
      rw [Option.eq_none_iff_forall_ne_some]
      intro keyword spelled
      exact unspelled (.keyword keyword) (Keyword.ofSpelling?_eq_some_iff.mp spelled).symm
    have noTrue : word ≠ "true".toList := unspelled (.boolean true)
    have noFalse : word ≠ "false".toList := unspelled (.boolean false)
    rw [WordTable.listedKind?, if_neg noTrue, if_neg noFalse, noKeyword]
    rfl

theorem table_reserveAll {set reserved : WordSet} {words : List Text}
    (accepted : reserveAll set words = .ok reserved) :
    reserved.table = words.foldl WordTable.enterListed set.table := by
  induction words generalizing set with
  | nil =>
    cases accepted
    rfl
  | cons word rest ih =>
    have kind := listedKind?_eq word
    rw [reserveAll] at accepted
    cases found : ReservedWord.ofSpelling? word with
    | none =>
      rw [found] at accepted
      cases accepted
    | some added =>
      rw [found] at accepted kind
      rw [ih accepted, WordSet.table_insert, List.foldl_cons, WordTable.enterListed, kind,
        ReservedWord.ofSpelling?_eq_some found]
      rfl

theorem table_ofSettings {settings : Settings} {config : Config}
    (accepted : ofSettings settings = .ok config) :
    config.reserved.table = WordTable.ofSettings settings := by
  rw [WordTable.ofSettings]
  cases words : settings.words with
  | none =>
    simp only [ofSettings, words] at accepted
    cases accepted
    exact WordSet.table_full
  | some listed =>
    simp only [ofSettings, words] at accepted
    cases made : reserveAll .empty listed with
    | error word =>
      rw [made] at accepted
      cases accepted
    | ok set =>
      rw [made] at accepted
      cases accepted
      rw [table_reserveAll made, WordSet.table_empty]

/-- How configurations are obtained, each with the table that is written on the way. -/
inductive Obtained (read : Settings.Reader) : Config → WordTable → Prop where
  | built (edits : List Edit) : Obtained read (build edits) (edits.foldl WordTable.edit .full)
  | loaded {text : Text} {config : Config} (accepted : load read text = .ok config) :
      Obtained read config (.ofText read text)

theorem Obtained.table_eq {read : Settings.Reader} {config : Config} {table : WordTable}
    (obtained : config.Obtained read table) : config.reserved.table = table := by
  cases obtained with
  | built edits => exact table_build edits
  | @loaded text _ accepted =>
    rw [load] at accepted
    rw [WordTable.ofText]
    cases given : read text with
    | error failure =>
      rw [given] at accepted
      cases accepted
    | ok settings =>
      simp only [given] at accepted
      cases made : ofSettings settings with
      | error word =>
        rw [made] at accepted
        cases accepted
      | ok other =>
        rw [made] at accepted
        cases accepted
        exact table_ofSettings made

end Config

end Munch
