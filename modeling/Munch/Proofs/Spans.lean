import Munch.Proofs.Pass

/-! # Bytes of a source and the spans of items

Offsets count bytes. A slice of a text between two byte offsets exists if both fall between
characters; then it is the text between them. Every item of a source stands where its place says:
the text from that offset on is the text that was read. -/
set_option autoImplicit false

namespace Munch

namespace Text

def dropBytes : Nat → Text → Option Text
  | 0, text => some text
  | _ + 1, [] => none
  | bytes + 1, char :: rest =>
    if char.utf8Size ≤ bytes + 1 then dropBytes (bytes + 1 - char.utf8Size) rest else none

def takeBytes : Nat → Text → Option Text
  | 0, _ => some []
  | _ + 1, [] => none
  | bytes + 1, char :: rest =>
    if char.utf8Size ≤ bytes + 1 then
      (takeBytes (bytes + 1 - char.utf8Size) rest).map (char :: ·)
    else none

/-- The text between two byte offsets, unless they cross or one falls inside a character. -/
def slice (text : Text) (first last : Nat) : Option Text :=
  if first ≤ last then (text.dropBytes first).bind (takeBytes (last - first)) else none

@[simp] theorem utf8Length_nil : utf8Length [] = 0 := rfl

@[simp] theorem utf8Length_cons (char : Char) (rest : Text) :
    utf8Length (char :: rest) = char.utf8Size + utf8Length rest := rfl

@[simp] theorem utf8Length_append (first second : Text) :
    utf8Length (first ++ second) = utf8Length first + utf8Length second := by
  induction first with
  | nil => simp
  | cons char rest ih =>
    rw [List.cons_append, utf8Length_cons, utf8Length_cons, ih]
    omega

theorem utf8Length_pos {text : Text} (some : text ≠ []) : 0 < text.utf8Length := by
  cases text with
  | nil => exact absurd rfl some
  | cons char rest =>
    have size := char.utf8Size_pos
    rw [utf8Length_cons]
    omega

/-- A number of bytes that covers a character is one more than another number, which is the form the
functions that count bytes down match on. -/
theorem exists_succ_utf8Size_add (char : Char) (bytes : Nat) :
    ∃ less, char.utf8Size + bytes = less + 1 ∧ char.utf8Size ≤ less + 1 ∧
      less + 1 - char.utf8Size = bytes := by
  have size := char.utf8Size_pos
  exact ⟨char.utf8Size - 1 + bytes, by omega, by omega, by omega⟩

theorem dropBytes_cons (char : Char) (rest : Text) (bytes : Nat) :
    dropBytes (char.utf8Size + bytes) (char :: rest) = dropBytes bytes rest := by
  obtain ⟨less, total, fits, left⟩ := exists_succ_utf8Size_add char bytes
  rw [total, dropBytes, if_pos fits, left]

theorem takeBytes_cons (char : Char) (rest : Text) (bytes : Nat) :
    takeBytes (char.utf8Size + bytes) (char :: rest) =
      (takeBytes bytes rest).map (char :: ·) := by
  obtain ⟨less, total, fits, left⟩ := exists_succ_utf8Size_add char bytes
  rw [total, takeBytes, if_pos fits, left]

theorem dropBytes_append (before behind : Text) :
    dropBytes before.utf8Length (before ++ behind) = some behind := by
  induction before with
  | nil =>
    rw [utf8Length_nil, dropBytes]
    rfl
  | cons char rest ih => rw [utf8Length_cons, List.cons_append, dropBytes_cons, ih]

theorem takeBytes_append (before behind : Text) :
    takeBytes before.utf8Length (before ++ behind) = some before := by
  induction before with
  | nil => rw [utf8Length_nil, takeBytes]
  | cons char rest ih =>
    rw [utf8Length_cons, List.cons_append, takeBytes_cons, ih]
    rfl

theorem slice_append (before inside behind : Text) :
    slice (before ++ (inside ++ behind)) before.utf8Length
      (before.utf8Length + inside.utf8Length) = some inside := by
  have bytes : before.utf8Length + inside.utf8Length - before.utf8Length = inside.utf8Length := by
    omega
  rw [slice, if_pos (Nat.le_add_right _ _), dropBytes_append, bytes]
  exact takeBytes_append inside behind

/-- Of two fronts of a text the one with fewer bytes is a front of the other. -/
theorem exists_append_of_utf8Length_le {front behind longer rest : Text}
    (same : front ++ behind = longer ++ rest) (fewer : front.utf8Length ≤ longer.utf8Length) :
    ∃ middle, longer = front ++ middle ∧ behind = middle ++ rest := by
  rcases List.append_eq_append_iff.mp same with found | ⟨more, rfl, rfl⟩
  · exact found
  · rw [utf8Length_append] at fewer
    by_cases none : more = []
    · subst none
      exact ⟨[], by simp, rfl⟩
    · have bytes := utf8Length_pos none
      omega

/-- Two fronts of a text that have the same number of bytes are the same. -/
theorem append_inj_of_utf8Length_eq {front behind other rest : Text}
    (same : front ++ behind = other ++ rest) (bytes : front.utf8Length = other.utf8Length) :
    front = other ∧ behind = rest := by
  obtain ⟨middle, rfl, rfl⟩ := exists_append_of_utf8Length_le same (Nat.le_of_eq bytes)
  cases middle with
  | nil => exact ⟨(List.append_nil front).symm, rfl⟩
  | cons char middle =>
    have more := utf8Length_pos (List.cons_ne_nil char middle)
    rw [utf8Length_append] at bytes
    omega

end Text

namespace Position

theorem offset_advance (place : Position) (char : Char) :
    (place.advance char).offset = place.offset + char.utf8Size := by
  unfold advance
  split <;> rfl

theorem offset_after (place : Position) (text : Text) :
    (place.after text).offset = place.offset + text.utf8Length := by
  induction text generalizing place with
  | nil => rfl
  | cons char rest ih =>
    rw [after_cons, ih, offset_advance, Text.utf8Length_cons]
    omega

theorem offset_start_after (text : Text) : (start.after text).offset = text.utf8Length := by
  rw [offset_after]
  exact Nat.zero_add _

end Position

namespace Item

def start : Item → Position
  | .token found => found.start
  | .error found => found.position

def text : Item → Text
  | .token found => found.lexeme
  | .error found => found.offendingText

/-- The byte offsets between which an item stands: those of a token are its own, and an error covers
the offending text from its place on. -/
def span : Item → Nat × Nat
  | .token found => (found.start.offset, found.stop.offset)
  | .error found =>
    (found.position.offset, found.position.offset + found.offendingText.utf8Length)

end Item

namespace Lexeme

variable (lexeme : Lexeme) (start stop : Position)

@[simp] theorem start_between : (lexeme.between start stop).start = start := by
  unfold between
  cases lexeme.verdict <;> rfl

@[simp] theorem text_between : (lexeme.between start stop).text = lexeme.text := by
  unfold between
  cases lexeme.verdict <;> rfl

theorem span_between : (lexeme.between start (start.after lexeme.text)).span =
    (start.offset, start.offset + lexeme.text.utf8Length) := by
  unfold between
  cases lexeme.verdict with
  | token kind => simp [Item.span, Position.offset_after]
  | error fault => rfl

variable {lexeme start stop}

theorem of_between_eq_token {token : Token} (same : lexeme.between start stop = .token token) :
    lexeme = ⟨.token token.kind, token.lexeme⟩ ∧ token.start = start ∧ token.stop = stop := by
  obtain ⟨verdict, text⟩ := lexeme
  cases verdict with
  | token kind =>
    cases same
    exact ⟨rfl, rfl, rfl⟩
  | error fault => cases same

end Lexeme

/-- Every item of a text is the closing one or was read at the place where it says it begins. -/
theorem mem_itemsFrom (config : Config) (place : Position) (text : Text) {item : Item}
    (member : item ∈ itemsFrom config place text) : item = .closing (place.after text) ∨
      ∃ passed gap lexeme behind, text = passed ++ (gap ++ (lexeme.text ++ behind)) ∧
        Step config gap lexeme behind ∧
        item = lexeme.between (place.after (passed ++ gap))
          ((place.after (passed ++ gap)).after lexeme.text) := by
  induction text using pass_induction config generalizing place with
  | closing gap trivia =>
    rw [itemsFrom_closing config place trivia, List.mem_singleton] at member
    exact Or.inl member
  | step gap lexeme behind step ih =>
    rw [itemsFrom_step place step] at member
    rcases List.mem_cons.mp member with rfl | later
    · exact Or.inr ⟨[], gap, lexeme, behind, rfl, step, rfl⟩
    · rcases ih _ later with rfl | ⟨passed, nextGap, next, rest, rfl, nextStep, same⟩
      · refine Or.inl ?_
        simp only [Position.after_append]
      · refine Or.inr ⟨gap ++ lexeme.text ++ passed, nextGap, next, rest, by simp, nextStep, ?_⟩
        rw [same]
        simp only [Position.after_append]

theorem exists_of_mem_itemsFrom (config : Config) (place : Position) (text : Text) {item : Item}
    (member : item ∈ itemsFrom config place text) (inner : item.isEnd = false) :
    ∃ passed gap lexeme behind, text = passed ++ (gap ++ (lexeme.text ++ behind)) ∧
      Step config gap lexeme behind ∧
      item = lexeme.between (place.after (passed ++ gap))
        ((place.after (passed ++ gap)).after lexeme.text) := by
  rcases mem_itemsFrom config place text member with rfl | read
  · contradiction
  · exact read

/-- Every token of a source but the closing one is a lexeme of the language. -/
theorem lexical_of_mem_tokenize {config : Config} {source : Text} {token : Token}
    (member : .token token ∈ tokenize config source) (inner : token.isEnd = false) :
    Lexical config token.kind token.lexeme := by
  rw [tokenize_eq_itemsFrom] at member
  obtain ⟨_, _, _, _, -, step, same⟩ :=
    exists_of_mem_itemsFrom config .start source member inner
  obtain ⟨rfl, -, -⟩ := Lexeme.of_between_eq_token same.symm
  exact step.lexical

/-- Every item of a text stands in it at the bytes of its span. -/
theorem exists_location (config : Config) (place : Position) (text : Text) {item : Item}
    (member : item ∈ itemsFrom config place text) :
    ∃ passed behind, text = passed ++ (item.text ++ behind) ∧
      item.span = (place.offset + passed.utf8Length,
        place.offset + passed.utf8Length + item.text.utf8Length) ∧
      (item.isEnd = false → item.text ≠ []) ∧
      (item.isEnd = true → item.text = [] ∧ behind = []) := by
  rcases mem_itemsFrom config place text member with
    rfl | ⟨passed, gap, lexeme, behind, rfl, step, rfl⟩
  · refine ⟨text, [], (List.append_nil text).symm, ?_, ?_, fun _ => ⟨rfl, rfl⟩⟩
    · simp [Item.closing, Item.span, Item.text, Position.offset_after]
    · intro inner
      contradiction
  · refine ⟨passed ++ gap, behind, ?_, ?_, ?_, ?_⟩
    · rw [Lexeme.text_between, List.append_assoc]
    · rw [Lexeme.span_between, Lexeme.text_between, Position.offset_after]
    · intro _
      rw [Lexeme.text_between]
      exact step.some
    · intro closes
      rw [step.isEnd_between] at closes
      contradiction

end Munch
