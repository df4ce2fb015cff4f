import Mathlib.Data.List.Forall2
import Munch.Config.Loading
import Munch.Proofs.SettingsReading

/-! # Loading settings with any reader

Settings are declared as a record of two fields, and the reader of a declared record comes from
outside. What is known of it is said in two parts: it reads JSON, and it takes those values of JSON
that the declaration fits. Every such reader takes just the texts that spell settings, so a text is
loaded by its form: what it spells decides, and how it is spelled does not matter. -/
set_option autoImplicit false

namespace Munch

/-! ## Values of JSON and what they are taken for -/

inductive TakesText : JsonValue → Text → Prop where
  | string (content : Text) : TakesText (.string content) content

inductive TakesFlag : JsonValue → Bool → Prop where
  | boolean (flag : Bool) : TakesFlag (.boolean flag) flag

section

variable {α : Type} (takes : JsonValue → α → Prop)

inductive TakesList : JsonValue → List α → Prop where
  | list {elements : List JsonValue} {contents : List α}
      (each : List.Forall₂ takes elements contents) : TakesList (.list elements) contents

inductive TakesOptional : JsonValue → Option α → Prop where
  | null : TakesOptional .null none
  | given {value : JsonValue} {content : α} (taken : takes value content) :
      TakesOptional value (some content)

end

/-- A record as it is declared: its fields in their order, their names, the record of defaults, and
what it becomes when a value of JSON is put into a field. -/
structure Declaration (φ σ : Type) where
  fields : List φ
  name : φ → Text
  defaults : σ
  Puts : φ → JsonValue → σ → σ → Prop

namespace Declaration

variable {φ σ : Type} [DecidableEq φ] (declaration : Declaration φ σ)

/-- The members of an object, each of which names a field that has not been given yet. -/
inductive TakesMembers : List φ → List (Text × JsonValue) → σ → σ → Prop where
  | done {unread : List φ} {record : σ} : TakesMembers unread [] record record
  | next {unread : List φ} {field : φ} {value : JsonValue} {members : List (Text × JsonValue)}
      {record changed result : σ} (known : field ∈ unread)
      (puts : declaration.Puts field value record changed)
      (more : TakesMembers (unread.erase field) members changed result) :
      TakesMembers unread ((declaration.name field, value) :: members) record result

inductive TakesElements : List φ → List JsonValue → σ → σ → Prop where
  | done {fields : List φ} {record : σ} : TakesElements fields [] record record
  | next {field : φ} {fields : List φ} {value : JsonValue} {elements : List JsonValue}
      {record changed result : σ} (puts : declaration.Puts field value record changed)
      (more : TakesElements fields elements changed result) :
      TakesElements (field :: fields) (value :: elements) record result

/-- A field that is not given keeps its default; one that is not declared is never given. -/
inductive Takes : JsonValue → σ → Prop where
  | object {members : List (Text × JsonValue)} {record : σ}
      (taken : declaration.TakesMembers declaration.fields members declaration.defaults record) :
      Takes (.object members) record
  | list {elements : List JsonValue} {record : σ}
      (taken : declaration.TakesElements declaration.fields elements declaration.defaults record) :
      Takes (.list elements) record

/-- Whether a function reads the declared record from JSON. Nothing is known of its errors. -/
structure ReadBy {ε : Type} (read : Text → Except ε σ) : Prop where
  sound : ∀ text record, read text = .ok record →
    ∃ value : JsonValue, value.IsText text ∧ declaration.Takes value record
  complete : ∀ (value : JsonValue) text record, value.IsText text →
    declaration.Takes value record → read text = .ok record

end Declaration

/-- Whether a text spells something by one rule exactly if it spells, by another rule, a value that
fits it. -/
def Respells {α β : Type} (other : β → Text → Prop) (spells : α → Text → Prop)
    (fits : α → β → Prop) : Prop :=
  ∀ content text, other content text ↔ ∃ value, spells value text ∧ fits value content

theorem Respells.upTo {α β : Type} {other : β → Text → Prop} {spells : α → Text → Prop}
    {fits : α → β → Prop} (each : Respells other spells fits) (closing : Char) (first : Bool) :
    Respells (SpellsUpTo other closing first) (SpellsUpTo spells closing first)
      (List.Forall₂ fits) := by
  intro contents text
  constructor
  · intro spelled
    induction spelled with
    | close blank => exact ⟨[], .close blank, .nil⟩
    | next lead one _ ih =>
      obtain ⟨value, spelledValue, fit⟩ := (each _ _).mp one
      obtain ⟨values, more, fitting⟩ := ih
      exact ⟨value :: values, .next lead spelledValue more, .cons fit fitting⟩
  · intro taken
    obtain ⟨values, spelled, fitting⟩ := taken
    induction spelled generalizing contents with
    | close blank =>
      cases fitting
      exact .close blank
    | next lead one _ ih =>
      cases fitting with
      | cons fit fitting => exact .next lead ((each _ _).mpr ⟨_, one, fit⟩) (ih _ fitting)

namespace Settings

/-! ## Settings as a declared record -/

inductive TakesPart : JsonValue → Part → Prop where
  | words {value : JsonValue} {listed : Option (List Text)}
      (taken : TakesOptional (TakesList TakesText) value listed) : TakesPart value (.words listed)
  | strictNumbers {value : JsonValue} {strict : Option Bool}
      (taken : TakesOptional TakesFlag value strict) : TakesPart value (.strictNumbers strict)

def declaration : Declaration Field Settings where
  fields := [.words, .strictNumbers]
  name := Field.name
  defaults := {}
  Puts field value settings result :=
    ∃ part, TakesPart value part ∧ part.field = field ∧ result = part.put settings

theorem respells_string : Respells SpellsString JsonValue.Written TakesText := by
  intro content text
  constructor
  · intro spelled
    exact ⟨.string content, .string spelled, .string content⟩
  · intro taken
    obtain ⟨_, written, ⟨⟩⟩ := taken
    cases written with
    | string spelled => exact spelled

theorem respells_flag : Respells SpellsFlag JsonValue.Written TakesFlag := by
  intro flag text
  constructor
  · intro spelled
    exact ⟨.boolean flag, .boolean spelled, .boolean flag⟩
  · intro taken
    obtain ⟨_, written, ⟨⟩⟩ := taken
    cases written with
    | boolean spelled => exact spelled

section

variable {α : Type} {spells : α → Text → Prop} {takes : JsonValue → α → Prop}

theorem respells_list (each : Respells spells JsonValue.Written takes) :
    Respells (SpellsEnclosed spells '[' ']') JsonValue.Written (TakesList takes) := by
  intro contents text
  constructor
  · intro spelled
    obtain ⟨spelled⟩ := spelled
    obtain ⟨elements, written, taken⟩ := (each.upTo ']' true contents _).mp spelled
    exact ⟨.list elements, .list written, .list taken⟩
  · intro taken
    obtain ⟨_, written, ⟨taken⟩⟩ := taken
    cases written with
    | list spelled => exact .enclosed ((each.upTo ']' true contents _).mpr ⟨_, spelled, taken⟩)

theorem respells_optional (each : Respells spells JsonValue.Written takes) :
    Respells (SpellsOptional spells) JsonValue.Written (TakesOptional takes) := by
  intro given text
  constructor
  · intro spelled
    obtain _ | spelled := spelled
    · exact ⟨.null, .null, .null⟩
    · obtain ⟨value, written, taken⟩ := (each _ _).mp spelled
      exact ⟨value, written, .given taken⟩
  · intro taken
    obtain ⟨value, written, _ | taken⟩ := taken
    · cases written
      exact .null
    · exact .given ((each _ _).mpr ⟨value, written, taken⟩)

end

theorem respells_part : Respells SpellsValue JsonValue.Written TakesPart := by
  have words := respells_optional (respells_list respells_string)
  have strict := respells_optional respells_flag
  intro part text
  constructor
  · intro spelled
    obtain spelled | spelled := spelled
    · obtain ⟨value, written, taken⟩ := (words _ _).mp spelled
      exact ⟨value, written, .words taken⟩
    · obtain ⟨value, written, taken⟩ := (strict _ _).mp spelled
      exact ⟨value, written, .strictNumbers taken⟩
  · intro taken
    obtain ⟨value, written, taken | taken⟩ := taken
    · exact .words ((words _ _).mpr ⟨value, written, taken⟩)
    · exact .strictNumbers ((strict _ _).mpr ⟨value, written, taken⟩)

def TakesMember (member : Text × JsonValue) (part : Part) : Prop :=
  member.1 = part.field.name ∧ TakesPart member.2 part

theorem respells_member : Respells SpellsMember (SpellsNamed JsonValue.Written) TakesMember := by
  intro part text
  constructor
  · intro spelled
    obtain ⟨isName, blank, free, spelled⟩ := spelled
    obtain ⟨value, written, taken⟩ := (respells_part _ _).mp spelled
    exact ⟨(part.field.name, value), .named isName blank free written, rfl, taken⟩
  · intro taken
    obtain ⟨⟨_, value⟩, ⟨isName, blank, free, written⟩, rfl, taken⟩ := taken
    exact .named isName blank free ((respells_part _ _).mpr ⟨value, written, taken⟩)

/-! ## What is spelled and what is taken -/

theorem takesMembers_iff {unread : List Field} (distinct : unread.Nodup)
    {members : List (Text × JsonValue)} {settings result : Settings} :
    declaration.TakesMembers unread members settings result ↔
      ∃ parts, List.Forall₂ TakesMember members parts ∧ OnceAmong unread parts ∧
        result = parts.foldl Part.put settings := by
  constructor
  · intro taken
    induction taken with
    | @done unread => exact ⟨[], .nil, onceAmong_nil unread, rfl⟩
    | next known puts _ ih =>
      obtain ⟨part, holds, rfl, rfl⟩ := puts
      obtain ⟨parts, taken, once, rfl⟩ := ih (distinct.erase _)
      exact ⟨part :: parts, .cons ⟨rfl, holds⟩ taken,
        (onceAmong_cons_iff distinct).mpr ⟨known, once⟩, rfl⟩
  · intro taken
    obtain ⟨parts, taken, once, rfl⟩ := taken
    induction taken generalizing unread settings with
    | nil => exact .done
    | @cons member part members parts one _ ih =>
      obtain ⟨name, value⟩ := member
      obtain ⟨rfl, holds⟩ := one
      obtain ⟨known, once⟩ := (onceAmong_cons_iff distinct).mp once
      exact .next known ⟨part, holds, rfl, rfl⟩ (ih (distinct.erase _) once)

theorem takesElements_iff {fields : List Field} {elements : List JsonValue}
    {settings result : Settings} :
    declaration.TakesElements fields elements settings result ↔
      ∃ parts, List.Forall₂ TakesPart elements parts ∧ parts.map Part.field <+: fields ∧
        result = parts.foldl Part.put settings := by
  constructor
  · intro taken
    induction taken with
    | done => exact ⟨[], .nil, List.nil_prefix, rfl⟩
    | next puts _ ih =>
      obtain ⟨part, holds, rfl, rfl⟩ := puts
      obtain ⟨parts, taken, ordered, rfl⟩ := ih
      exact ⟨part :: parts, .cons holds taken, List.cons_prefix_cons.mpr ⟨rfl, ordered⟩, rfl⟩
  · intro taken
    obtain ⟨parts, taken, ordered, rfl⟩ := taken
    induction taken generalizing fields settings with
    | nil => exact .done
    | @cons value part elements parts holds _ ih =>
      cases fields with
      | nil => exact absurd (List.prefix_nil.mp ordered) (List.cons_ne_nil _ _)
      | cons field fields =>
        obtain ⟨named, ordered⟩ := List.cons_prefix_cons.mp ordered
        exact .next ⟨part, holds, named, rfl⟩ (ih ordered)

theorem spellsParts_iff {settings : Settings} {text : Text} :
    (∃ parts, SpellsParts parts text ∧ settings = parts.foldl Part.put {}) ↔
      ∃ value, JsonValue.Written value text ∧ declaration.Takes value settings := by
  constructor
  · intro spelled
    obtain ⟨parts, ⟨⟨spelled⟩, once⟩ | ⟨⟨spelled⟩, ordered⟩, given⟩ := spelled
    · obtain ⟨members, written, taken⟩ := (respells_member.upTo '}' true parts _).mp spelled
      exact ⟨.object members, .object written, .object ((takesMembers_iff distinct_fields).mpr
        ⟨parts, taken, onceAmong_fields_iff.mpr once, given⟩)⟩
    · obtain ⟨elements, written, taken⟩ := (respells_part.upTo ']' true parts _).mp spelled
      exact ⟨.list elements, .list written,
        .list (takesElements_iff.mpr ⟨parts, taken, ordered, given⟩)⟩
  · intro taken
    obtain ⟨value, written, taken | taken⟩ := taken
    · obtain ⟨parts, fitting, once, given⟩ := (takesMembers_iff distinct_fields).mp taken
      cases written with
      | object written =>
        have spelled := (respells_member.upTo '}' true parts _).mpr ⟨_, written, fitting⟩
        exact ⟨parts, .object (.enclosed spelled) (onceAmong_fields_iff.mp once), given⟩
    · obtain ⟨parts, fitting, ordered, given⟩ := takesElements_iff.mp taken
      cases written with
      | list written =>
        have spelled := (respells_part.upTo ']' true parts _).mpr ⟨_, written, fitting⟩
        exact ⟨parts, .list (.enclosed spelled) ordered, given⟩

/-- A text spells settings exactly if it is JSON for a value that the declaration fits. -/
theorem spells_iff_takes {settings : Settings} {text : Text} : Spells settings text ↔
    ∃ value : JsonValue, value.IsText text ∧ declaration.Takes value settings := by
  rw [spells_iff]
  constructor
  · intro spelled
    obtain ⟨before, front, behind, parts, rfl, blank, spelled, free, given⟩ := spelled
    obtain ⟨value, written, taken⟩ := spellsParts_iff.mp ⟨parts, spelled, given⟩
    exact ⟨value, .around blank written free, taken⟩
  · intro taken
    obtain ⟨value, ⟨blank, written, free⟩, taken⟩ := taken
    obtain ⟨parts, spelled, given⟩ := spellsParts_iff.mpr ⟨value, written, taken⟩
    exact ⟨_, _, _, parts, rfl, blank, spelled, free, given⟩

/-! ## Readers -/

/-- Every reader of the declared record reads a text as settings exactly if it spells them. -/
theorem ReadBy.read_eq_ok_iff {read : Reader} (readBy : declaration.ReadBy read)
    {settings : Settings} {text : Text} : read text = .ok settings ↔ Spells settings text := by
  rw [spells_iff_takes]
  constructor
  · exact readBy.sound text settings
  · intro taken
    obtain ⟨value, isText, taken⟩ := taken
    exact readBy.complete value text settings isText taken

/-- The reader that runs is such a reader. -/
theorem readBy_read : declaration.ReadBy read where
  sound := fun _ _ done => spells_iff_takes.mp (read_eq_ok_iff.mp done)
  complete := fun value _ _ isText taken =>
    read_eq_ok_iff.mpr (spells_iff_takes.mpr ⟨value, isText, taken⟩)

end Settings

namespace Config

open Settings

variable {read : Settings.Reader} (readBy : Settings.declaration.ReadBy read)

/-- How a text is loaded, seen from its form. It is refused as unreadable exactly if it has not the
form of settings. If it has, what is loaded depends on the settings alone: on the words listed, if
any, and on the flag, if there is one. All else is spelling and makes no difference: an object or a
list, the order of the members, `null` or nothing, blanks, and escapes in keys and words. -/
structure LoadsByForm (read : Settings.Reader) (text : Text) : Prop where
  refused : (∃ problem place, load read text = .error (.unreadable problem place)) ↔
    ¬ ∃ settings, Spells settings text
  given : ∀ settings, Spells settings text →
    load read text = (ofSettings settings).mapError .unknownWord
  alike : ∀ settings other, Spells settings text → Spells settings other →
    load read text = load read other

include readBy

/-- The settings of a text of the form are loaded as they are. -/
theorem load_of_spells {settings : Settings} {text : Text} (spelled : Spells settings text) :
    load read text = (ofSettings settings).mapError .unknownWord := by
  rw [load, (ReadBy.read_eq_ok_iff readBy).mpr spelled]

theorem exists_unreadable_iff {text : Text} :
    (∃ problem place, load read text = .error (.unreadable problem place)) ↔
      ¬ ∃ settings, Spells settings text := by
  constructor
  · intro unreadable formed
    obtain ⟨problem, place, refused⟩ := unreadable
    obtain ⟨settings, spelled⟩ := formed
    rw [load_of_spells readBy spelled] at refused
    cases loaded : ofSettings settings <;> simp [loaded, Except.mapError] at refused
  · intro formless
    cases taken : read text with
    | error failure => exact ⟨failure.problem, failure.place text, by rw [load, taken]⟩
    | ok settings => exact absurd ⟨settings, (ReadBy.read_eq_ok_iff readBy).mp taken⟩ formless

/-- With a reader of the declared record, every text is loaded by its form. -/
theorem loadsByForm_load (text : Text) : LoadsByForm read text where
  refused := exists_unreadable_iff readBy
  given := fun _ spelled => load_of_spells readBy spelled
  alike := fun _ _ spelled same => by
    rw [load_of_spells readBy spelled, load_of_spells readBy same]

omit readBy in
/-- A list of one value, in which a letter is written by its number. -/
theorem loadsByForm_load_read : Settings.declaration.ReadBy Settings.read ∧
    LoadsByForm Settings.read "[[\"\\u006cet\"]]".toList :=
  ⟨readBy_read, loadsByForm_load readBy_read "[[\"\\u006cet\"]]".toList⟩

example : ofText "\x7b\"strict_numbers\" : null, \"keywords\" : [\"let\"]\x7d".toList =
    ofText "[[\"\\u006cet\"]]".toList := by decide +kernel

end Config

end Munch
