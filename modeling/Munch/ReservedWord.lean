import Munch.Token

/-! # Reserved words and sets of them

The words that a configuration may reserve are the keywords and the two truth values. A set of
them is kept in the order of the spellings, each word once, so two sets with the same words are
equal. -/
set_option autoImplicit false

namespace Munch

inductive ReservedWord where
  | keyword (word : Keyword)
  | boolean (value : Bool)
deriving DecidableEq, Repr

namespace ReservedWord

def spelling : ReservedWord → Text
  | keyword word => word.spelling
  | boolean value => Kind.truthWord value

def kind : ReservedWord → Kind
  | keyword word => .keyword word
  | boolean value => .boolean value

def all : List ReservedWord :=
  [keyword .kwBool, keyword .kwDouble, keyword .kwInt, keyword .kwString, keyword .kwVoid,
    keyword .kwCase, keyword .kwDefault, keyword .kwElse, boolean false, keyword .kwFor,
    keyword .kwFunc, keyword .kwIf, keyword .kwIn, keyword .kwLet, keyword .kwRepeat,
    keyword .kwReturn, keyword .kwStruct, keyword .kwSwitch, boolean true, keyword .kwVar,
    keyword .kwWhile]

def ofSpelling? (word : Text) : Option ReservedWord :=
  all.find? fun reserved => reserved.spelling == word

theorem mem_all (reserved : ReservedWord) : reserved ∈ all := by
  cases reserved with
  | keyword word => cases word <;> decide
  | boolean value => cases value <;> decide

@[simp] theorem ofSpelling?_spelling (reserved : ReservedWord) :
    ofSpelling? reserved.spelling = some reserved := by
  cases reserved with
  | keyword word => cases word <;> rfl
  | boolean value => cases value <;> rfl

theorem ofSpelling?_eq_some {word : Text} {reserved : ReservedWord}
    (found : ofSpelling? word = some reserved) : reserved.spelling = word := by
  have holds := List.find?_some
    (show all.find? (fun candidate => candidate.spelling == word) = some reserved from found)
  exact eq_of_beq holds

end ReservedWord

/-- A set of reserved words: those of all words that are in it, in the order of the spellings. -/
structure WordSet where
  words : List ReservedWord
  canonical : words = ReservedWord.all.filter fun reserved => decide (reserved ∈ words)
deriving DecidableEq

namespace WordSet

instance : Membership ReservedWord WordSet where
  mem set reserved := reserved ∈ set.words

instance (reserved : ReservedWord) (set : WordSet) : Decidable (reserved ∈ set) :=
  inferInstanceAs (Decidable (reserved ∈ set.words))

def ofTest (holds : ReservedWord → Bool) : WordSet where
  words := ReservedWord.all.filter holds
  canonical := List.filter_congr fun reserved member => by
    simp [List.mem_filter, member]

def empty : WordSet := ofTest fun _ => false

def full : WordSet := ofTest fun _ => true

def insert (set : WordSet) (added : ReservedWord) : WordSet :=
  ofTest fun reserved => reserved = added || reserved ∈ set

def erase (set : WordSet) (removed : ReservedWord) : WordSet :=
  ofTest fun reserved => reserved ≠ removed && reserved ∈ set

def size (set : WordSet) : Nat := set.words.length

@[simp] theorem mem_ofTest {holds : ReservedWord → Bool} {reserved : ReservedWord} :
    reserved ∈ ofTest holds ↔ holds reserved = true := by
  show reserved ∈ ReservedWord.all.filter holds ↔ _
  simp [List.mem_filter, ReservedWord.mem_all]

@[simp] theorem not_mem_empty (reserved : ReservedWord) : reserved ∉ empty := by
  simp [empty]

@[simp] theorem mem_full (reserved : ReservedWord) : reserved ∈ full := by
  simp [full]

@[simp] theorem mem_insert {set : WordSet} {added reserved : ReservedWord} :
    reserved ∈ set.insert added ↔ reserved = added ∨ reserved ∈ set := by
  simp [insert]

@[simp] theorem mem_erase {set : WordSet} {removed reserved : ReservedWord} :
    reserved ∈ set.erase removed ↔ reserved ≠ removed ∧ reserved ∈ set := by
  simp [erase]

theorem ext {first second : WordSet} (same : ∀ reserved, reserved ∈ first ↔ reserved ∈ second) :
    first = second := by
  have words : first.words = second.words := by
    rw [first.canonical, second.canonical]
    exact List.filter_congr fun reserved _ => decide_eq_decide.mpr (same reserved)
  cases first
  cases second
  cases words
  rfl

end WordSet

end Munch
