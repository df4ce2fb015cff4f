import Munch.Proofs.ValueReading

/-! # Reading settings takes what spells them

Settings are read from an object, member by member, or from a list, value by value. Both ways put
parts into settings, and the parts give the same settings in whatever order they stand. -/
set_option autoImplicit false

namespace Munch.Settings

/-! ## Parts -/

def Part.put (settings : Settings) : Part → Settings
  | .words listed => { settings with words := listed }
  | .strictNumbers strict => { settings with strictNumbers := strict }

theorem readField_eq_ok_iff {settings result : Settings} {field : Field} {text rest : Text} :
    readField settings field text = .ok (result, rest) ↔
      ∃ part blanks front, part.field = field ∧ Blanks blanks ∧ text = blanks ++ front ++ rest ∧
        SpellsValue part front ∧ result = part.put settings := by
  constructor
  · intro done
    cases field with
    | words =>
      simp only [readField] at done
      split at done
      · contradiction
      · rename_i taken
        cases done
        obtain ⟨blanks, front, blank, shape, spelled⟩ :=
          (readOptional_eq_ok_iff accepts_readWords SpellsWords.beginsWith).mp taken
        exact ⟨.words _, blanks, front, rfl, blank, shape, .words spelled, rfl⟩
    | strictNumbers =>
      simp only [readField] at done
      split at done
      · contradiction
      · rename_i taken
        cases done
        obtain ⟨blanks, front, blank, shape, spelled⟩ :=
          (readOptional_eq_ok_iff accepts_readFlag SpellsFlag.beginsWith).mp taken
        exact ⟨.strictNumbers _, blanks, front, rfl, blank, shape, .strictNumbers spelled, rfl⟩
  · rintro ⟨part, blanks, front, rfl, blank, shape, spelled, rfl⟩
    cases spelled with
    | words spelled =>
      simp only [readField, Part.field, (readOptional_eq_ok_iff accepts_readWords
        SpellsWords.beginsWith).mpr ⟨blanks, front, blank, shape, spelled⟩, Part.put]
    | strictNumbers spelled =>
      simp only [readField, Part.field, (readOptional_eq_ok_iff accepts_readFlag
        SpellsFlag.beginsWith).mpr ⟨blanks, front, blank, shape, spelled⟩, Part.put]

/-! ## Members of an object -/

theorem readColon_eq_ok_iff {text rest : Text} :
    readColon text = .ok rest ↔ skipBlanks text = ':' :: rest := by
  unfold readColon
  split
  · rename_i shape
    simp [shape]
  · rename_i char behind shape
    rw [shape]
    split
    · rename_i colon
      simp [colon]
    · rename_i other
      simp [other]

theorem openKey_eq_ok_iff {text rest : Text} : openKey text = .ok rest ↔ text = '"' :: rest := by
  unfold openKey
  split
  · simp
  · split
    · rename_i mark
      simp [mark]
    · rename_i other
      split <;> simp [other]

theorem ofName?_eq_some_iff {name : Text} {field : Field} :
    Field.ofName? name = some field ↔ name = field.name := by
  constructor
  · intro found
    unfold Field.ofName? at found
    have same := List.find?_some found
    exact (eq_of_beq same).symm
  · rintro rfl
    cases field <;> decide

theorem readKey_eq_ok_iff {unread : List Field} {field : Field} {text rest : Text} :
    readKey unread text = .ok (field, rest) ↔ field ∈ unread ∧
      ∃ inside blanks, SpellsString field.name ('"' :: inside) ∧ Blanks blanks ∧
        text = inside ++ blanks ++ ':' :: rest := by
  constructor
  · intro done
    refine ⟨mem_of_readKey done, ?_⟩
    unfold readKey at done
    split at done
    · contradiction
    · rename_i name behind taken
      obtain ⟨inside, shape, spelled⟩ := accepts_readQuoted.exists_front taken
      split at done
      · contradiction
      · rename_i known
        split at done
        · split at done
          · contradiction
          · rename_i passed
            cases done
            obtain ⟨blanks, blank, colon⟩ :=
              (skipBlanks_eq_cons_iff (by decide)).mp (readColon_eq_ok_iff.mp passed)
            exact ⟨inside, blanks, ofName?_eq_some_iff.mp known ▸ spelled, blank,
              by rw [shape, colon, List.append_assoc]⟩
        · contradiction
  · rintro ⟨member, inside, blanks, spelled, blank, rfl⟩
    have passed : readColon (blanks ++ ':' :: rest) = .ok rest :=
      readColon_eq_ok_iff.mpr ((skipBlanks_eq_cons_iff (by decide)).mpr ⟨blanks, blank, rfl⟩)
    rw [List.append_assoc]
    simp only [readKey, accepts_readQuoted.read_append spelled, ofName?_eq_some_iff.mpr rfl,
      if_pos member, passed]

theorem map_openKey_eq_ok_iff {text : Text} {key : Text ⊕ Text} :
    (openKey text).map .inl = .ok key ↔ ∃ rest, text = '"' :: rest ∧ key = .inl rest := by
  cases opened : openKey text with
  | error failure =>
    simp only [Except.map, reduceCtorEq, false_iff]
    rintro ⟨rest, shape, -⟩
    rw [openKey_eq_ok_iff.mpr shape] at opened
    contradiction
  | ok rest =>
    rw [openKey_eq_ok_iff] at opened
    simp only [Except.map, opened, Except.ok.injEq, List.cons.injEq, true_and, exists_eq_left']
    exact eq_comm

theorem nextKey_eq_close_iff {first : Bool} {text rest : Text} :
    nextKey first text = .ok (.inr rest) ↔ skipBlanks text = '}' :: rest := by
  unfold nextKey
  split
  · rename_i shape
    simp [shape]
  · rename_i char behind shape
    rw [shape]
    split
    · rename_i mark
      simp [mark]
    · rename_i other
      split
      · simp [map_openKey_eq_ok_iff, other]
      · split <;> simp [map_openKey_eq_ok_iff, other]

theorem exists_lead_of_nextKey {first : Bool} {text key : Text}
    (found : nextKey first text = .ok (.inl key)) :
    ∃ lead, SpellsLead first lead ∧ text = lead ++ '"' :: key := by
  obtain ⟨blanks, blank, shape⟩ := exists_blanks text
  unfold nextKey at found
  split at found
  · contradiction
  · rename_i char rest shows
    rw [shows] at shape
    split at found
    · simp at found
    · split at found
      · rename_i isFirst
        obtain ⟨_, opens, same⟩ := map_openKey_eq_ok_iff.mp found
        cases same
        exact ⟨blanks, isFirst ▸ .first blank, by rw [shape, opens]⟩
      · rename_i notFirst
        split at found
        · rename_i comma
          obtain ⟨between, free, inner⟩ := exists_blanks rest
          obtain ⟨_, opens, same⟩ := map_openKey_eq_ok_iff.mp found
          cases same
          rw [opens] at inner
          rw [Bool.not_eq_true] at notFirst
          exact ⟨blanks ++ ',' :: between, notFirst ▸ .later blank free,
            by rw [shape, comma, inner]; simp⟩
        · contradiction

theorem nextKey_append {first : Bool} {lead : Text} (before : SpellsLead first lead) (key : Text) :
    nextKey first (lead ++ '"' :: key) = .ok (.inl key) := by
  have mark : skipBlanks ('"' :: key) = '"' :: key := skipBlanks_cons (by decide) key
  have opens := map_openKey_eq_ok_iff.mpr ⟨key, rfl, rfl⟩
  cases before with
  | first blank => simp [nextKey, skipBlanks_append blank, mark, opens]
  | later blank free =>
    rw [List.append_assoc, List.cons_append]
    simp [nextKey, skipBlanks_append blank, skipBlanks_append free, skipBlanks_comma, mark, opens]

/-- One member is read before those behind it. -/
theorem readMembers_append {first : Bool} {lead front : Text} {part : Part}
    (before : SpellsLead first lead) (spelled : SpellsMember part front) {unread : List Field}
    (known : part.field ∈ unread) (settings : Settings) (rest : Text) :
    readMembers unread first settings (lead ++ front ++ rest) =
      readMembers (unread.erase part.field) false (part.put settings) rest := by
  cases spelled with
  | @named key blanks between value name blank free spelled =>
    obtain ⟨inside, rfl⟩ := name.exists_inside
    have shape : lead ++ ('"' :: inside ++ blanks ++ ':' :: between ++ value) ++ rest =
        lead ++ '"' :: (inside ++ blanks ++ ':' :: (between ++ value ++ rest)) := by simp
    have taken : readKey unread (inside ++ blanks ++ ':' :: (between ++ value ++ rest)) =
        .ok (part.field, between ++ value ++ rest) :=
      readKey_eq_ok_iff.mpr ⟨known, inside, blanks, name, blank, rfl⟩
    have given : readField settings part.field (between ++ value ++ rest) =
        .ok (part.put settings, rest) :=
      readField_eq_ok_iff.mpr ⟨part, between, value, rfl, free, rfl, spelled, rfl⟩
    rw [shape, readMembers, nextKey_append before]
    dsimp only
    split <;> rename_i other <;> rw [taken] at other <;> cases other
    rw [given]

/-- Whether parts are for different fields, all of which are still unread. -/
def OnceAmong (unread : List Field) (parts : List Part) : Prop :=
  (parts.map Part.field).Nodup ∧ ∀ part ∈ parts, part.field ∈ unread

/-- Behind a part, its field may not be given again. -/
theorem onceAmong_cons_iff {unread : List Field} (distinct : unread.Nodup) {part : Part}
    {parts : List Part} : OnceAmong unread (part :: parts) ↔
      part.field ∈ unread ∧ OnceAmong (unread.erase part.field) parts := by
  constructor
  · intro given
    obtain ⟨once, known⟩ := given
    obtain ⟨new, once⟩ := List.nodup_cons.mp once
    obtain ⟨first, known⟩ := List.forall_mem_cons.mp known
    refine ⟨first, once, ?_⟩
    intro other among
    have different : other.field ≠ part.field :=
      fun same => new (same ▸ List.mem_map_of_mem among)
    exact (List.mem_erase_of_ne different).mpr (known other among)
  · intro given
    obtain ⟨first, once, left⟩ := given
    refine ⟨List.nodup_cons.mpr ⟨?_, once⟩, List.forall_mem_cons.mpr ⟨first, ?_⟩⟩
    · intro again
      obtain ⟨other, among, same⟩ := List.mem_map.mp again
      exact (distinct.mem_erase_iff.mp (left other among)).1 same
    · intro other among
      exact List.mem_of_mem_erase (left other among)

theorem onceAmong_nil (unread : List Field) : OnceAmong unread [] := ⟨.nil, nofun⟩

/-- Members are read up to the closing brace if each names a field not read yet. -/
theorem readMembers_of_spellsUpTo {first : Bool} {parts : List Part} {front : Text}
    (spelled : SpellsUpTo SpellsMember '}' first parts front) {unread : List Field}
    (distinct : unread.Nodup) (once : OnceAmong unread parts) (settings : Settings) (rest : Text) :
    readMembers unread first settings (front ++ rest) =
      .ok (parts.foldl Part.put settings, rest) := by
  induction spelled generalizing unread settings with
  | close blank =>
    rw [readMembers, nextKey_eq_close_iff.mpr (skipBlanks_mark blank (by decide) rest)]
    rfl
  | @next first part parts lead front behind before one more ih =>
    obtain ⟨known, once⟩ := (onceAmong_cons_iff distinct).mp once
    rw [List.append_assoc, readMembers_append before one known]
    exact ih (distinct.erase _) once (part.put settings)

/-- What is read up to the closing brace is members, and no two of them name one field. -/
theorem spellsUpTo_of_readMembers {unread : List Field} {first : Bool} {settings result : Settings}
    {text rest : Text} (distinct : unread.Nodup)
    (done : readMembers unread first settings text = .ok (result, rest)) :
    ∃ parts front, text = front ++ rest ∧ SpellsUpTo SpellsMember '}' first parts front ∧
      OnceAmong unread parts ∧ result = parts.foldl Part.put settings := by
  fun_induction readMembers unread first settings text with
  | case1 => contradiction
  | case2 unread first settings text behind closed =>
    cases done
    obtain ⟨blanks, blank, shape⟩ :=
      (skipBlanks_eq_cons_iff (by decide)).mp (nextKey_eq_close_iff.mp closed)
    exact ⟨[], blanks ++ ['}'], by simp [shape], .close blank, onceAmong_nil unread, rfl⟩
  | case3 => contradiction
  | case4 => contradiction
  | case5 unread first settings text key found field value known next behind taken fewer some ih =>
    obtain ⟨lead, before, outer⟩ := exists_lead_of_nextKey found
    obtain ⟨member, inside, blanks, name, blank, colon⟩ := readKey_eq_ok_iff.mp known
    obtain ⟨part, between, front, rfl, free, inner, spelled, rfl⟩ := readField_eq_ok_iff.mp taken
    obtain ⟨parts, last, rfl, more, once, rfl⟩ := ih (distinct.erase _) done
    exact ⟨part :: parts, lead ++ ('"' :: inside ++ blanks ++ ':' :: between ++ front) ++ last,
      by simp [outer, colon, inner], .next before (.named name blank free spelled) more,
      (onceAmong_cons_iff distinct).mpr ⟨member, once⟩, rfl⟩

/-! ## Values in a list -/

theorem SpellsValue.beginsWith {part : Part} {text : Text} (spelled : SpellsValue part text) :
    BeginsWith ['n', '[', 't', 'f'] text := by
  rcases spelled with @⟨_, _, _ | spelled⟩ | @⟨_, _, _ | spelled⟩
  · exact ⟨'n', by simp, _, rfl⟩
  · obtain ⟨mark, member, shape⟩ := SpellsWords.beginsWith spelled
    exact ⟨mark, List.mem_cons_of_mem _ member, shape⟩
  · exact ⟨'n', by simp, _, rfl⟩
  · obtain ⟨mark, member, shape⟩ := SpellsFlag.beginsWith spelled
    exact ⟨mark, List.mem_cons_of_mem _ member, shape⟩

/-- The list ends where an element could begin. -/
theorem readElement_close {first : Bool} {text rest : Text} (shows : skipBlanks text = ']' :: rest)
    (settings : Settings) (field : Field) :
    readElement first settings field text = .ok (settings, text) := by
  have closed : nextElement? first text = .ok none := nextElement?_eq_none_iff.mpr ⟨rest, shows⟩
  rw [readElement, closed]

theorem readElement_append {first : Bool} {lead front : Text} {part : Part}
    (before : SpellsLead first lead) (spelled : SpellsValue part front) (settings : Settings)
    (rest : Text) : readElement first settings part.field (lead ++ front ++ rest) =
      .ok (part.put settings, rest) := by
  have given : readField settings part.field (front ++ rest) = .ok (part.put settings, rest) :=
    readField_eq_ok_iff.mpr ⟨part, [], front, rfl, nofun, rfl, spelled, rfl⟩
  obtain ⟨mark, member, inside, rfl⟩ := spelled.beginsWith
  have solid : isBlank mark = false ∧ mark ≠ ']' := by
    simp only [List.mem_cons, List.not_mem_nil, or_false] at member
    rcases member with rfl | rfl | rfl | rfl <;> decide
  rw [List.append_assoc, List.cons_append, readElement,
    nextElement?_append before solid.1 solid.2]
  exact given

theorem readElement_cases {first : Bool} {settings result : Settings} {field : Field}
    {text rest : Text} (done : readElement first settings field text = .ok (result, rest)) :
    ((∃ behind, skipBlanks text = ']' :: behind) ∧ result = settings ∧ rest = text) ∨
      ∃ part lead front, part.field = field ∧ SpellsLead first lead ∧ SpellsValue part front ∧
        text = lead ++ front ++ rest ∧ result = part.put settings := by
  unfold readElement at done
  split at done
  · contradiction
  · rename_i closed
    cases done
    exact .inl ⟨nextElement?_eq_none_iff.mp closed, rfl, rfl⟩
  · rename_i element found
    obtain ⟨lead, before, outer⟩ := exists_lead_of_nextElement? found
    obtain ⟨part, blanks, front, same, blank, inner, spelled, put⟩ := readField_eq_ok_iff.mp done
    exact .inr ⟨part, lead ++ blanks, front, same, before.append_blanks blank, spelled,
      by simp [outer, inner], put⟩

/-- Behind an element, a list either ends or goes on. -/
theorem not_closed_of_lead {lead : Text} (before : SpellsLead false lead) (text behind : Text) :
    skipBlanks (lead ++ text) ≠ ']' :: behind := by
  obtain ⟨⟩ | ⟨blank, free⟩ := before
  rw [List.append_assoc, List.cons_append, skipBlanks_append blank, skipBlanks_comma]
  simp

/-- A list gives the fields in their order, and may end before any of them. -/
theorem readPositional_eq_ok_iff {settings : Settings} {text rest : Text} :
    readPositional text = .ok (settings, rest) ↔
      ∃ parts front, text = front ++ rest ∧ SpellsUpTo SpellsValue ']' true parts front ∧
        parts.map Part.field <+: [.words, .strictNumbers] ∧ settings = parts.foldl Part.put {} := by
  constructor
  · intro done
    unfold readPositional at done
    split at done
    · contradiction
    · rename_i one behind first
      split at done
      · contradiction
      · rename_i both last second
        split at done
        · contradiction
        · rename_i passed
          cases done
          obtain ⟨blanks, blank, close⟩ :=
            (skipBlanks_eq_cons_iff (by decide)).mp (closeList_eq_ok_iff.mp passed)
          rcases readElement_cases first with ⟨⟨_, shows⟩, rfl, rfl⟩ |
            ⟨part, lead, front, named, before, spelled, outer, rfl⟩
          · rcases readElement_cases second with ⟨-, rfl, rfl⟩ |
              ⟨other, lead, front, -, before, spelled, outer, rfl⟩
            · exact ⟨[], blanks ++ [']'], by simp [close], .close blank, by simp, rfl⟩
            · -- a list that ends where its first value could begin has no second one
              rw [outer, List.append_assoc] at shows
              exact absurd shows (not_closed_of_lead before _ _)
          · rcases readElement_cases second with ⟨-, rfl, rfl⟩ |
              ⟨other, between, behind, next, free, more, inner, rfl⟩
            · exact ⟨[part], lead ++ front ++ (blanks ++ [']']), by simp [outer, close],
                .next before spelled (.close blank), by simp [named], rfl⟩
            · exact ⟨[part, other], lead ++ front ++ (between ++ behind ++ (blanks ++ [']'])),
                by simp [outer, inner, close],
                .next before spelled (.next free more (.close blank)), by simp [named, next], rfl⟩
  · rintro ⟨parts, front, rfl, spelled, ordered, rfl⟩
    have close : ∀ {blanks : Text}, Blanks blanks →
        skipBlanks (blanks ++ [']'] ++ rest) = ']' :: rest :=
      fun blank => skipBlanks_mark blank (by decide) rest
    cases spelled with
    | close blank =>
      simp only [readPositional, readElement_close (close blank),
        closeList_eq_ok_iff.mpr (close blank), List.foldl_nil]
    | @next _ part parts lead front behind before spelled more =>
      obtain ⟨named, ordered⟩ := List.cons_prefix_cons.mp ordered
      have first := readElement_append before spelled {} (behind ++ rest)
      rw [named, ← List.append_assoc] at first
      cases more with
      | close blank =>
        simp only [readPositional, first, readElement_close (close blank),
          closeList_eq_ok_iff.mpr (close blank), List.foldl_cons, List.foldl_nil]
      | @next _ other parts between behind last free second more =>
        obtain ⟨next, ordered⟩ := List.cons_prefix_cons.mp ordered
        rw [List.prefix_nil, List.map_eq_nil_iff] at ordered
        subst ordered
        cases more with
        | @close _ blanks blank =>
          have later : readElement false (part.put {}) .strictNumbers
              (between ++ behind ++ (blanks ++ [']']) ++ rest) =
                .ok (other.put (part.put {}), blanks ++ [']'] ++ rest) := by
            rw [List.append_assoc, ← next]
            exact readElement_append free second _ _
          simp only [readPositional, first, later, closeList_eq_ok_iff.mpr (close blank),
            List.foldl_cons, List.foldl_nil]

/-! ## Whole texts -/

theorem distinct_fields : [Field.words, Field.strictNumbers].Nodup := by decide

theorem mem_fields (field : Field) : field ∈ [Field.words, Field.strictNumbers] := by
  cases field <;> decide

theorem onceAmong_fields_iff {parts : List Part} :
    OnceAmong [.words, .strictNumbers] parts ↔ (parts.map Part.field).Nodup :=
  and_iff_left fun part _ => mem_fields part.field

/-- Parts are read together with the blanks before them. -/
theorem readEither_eq_ok_iff {settings : Settings} {text rest : Text} :
    readEither text = .ok (settings, rest) ↔ ∃ blanks front parts, Blanks blanks ∧
      text = blanks ++ front ++ rest ∧ SpellsParts parts front ∧
      settings = parts.foldl Part.put {} := by
  constructor
  · intro done
    obtain ⟨blanks, blank, shape⟩ := exists_blanks text
    unfold readEither at done
    split at done
    · contradiction
    · rename_i char inside shows
      rw [shows] at shape
      split at done
      · rename_i brace
        obtain ⟨parts, front, rfl, spelled, once, rfl⟩ :=
          spellsUpTo_of_readMembers distinct_fields done
        exact ⟨blanks, '{' :: front, parts, blank, by simp [shape, brace],
          .object (.enclosed spelled) (onceAmong_fields_iff.mp once), rfl⟩
      · split at done
        · rename_i bracket
          obtain ⟨parts, front, rfl, spelled, ordered, rfl⟩ := readPositional_eq_ok_iff.mp done
          exact ⟨blanks, '[' :: front, parts, blank, by simp [shape, bracket],
            .list (.enclosed spelled) ordered, rfl⟩
        · contradiction
  · rintro ⟨blanks, front, parts, blank, rfl, spelled, rfl⟩
    rw [List.append_assoc, readEither, skipBlanks_append blank]
    obtain ⟨⟨spelled⟩, once⟩ | ⟨⟨spelled⟩, ordered⟩ := spelled
    · have among := onceAmong_fields_iff.mpr once
      exact readMembers_of_spellsUpTo spelled distinct_fields among {} rest
    · exact readPositional_eq_ok_iff.mpr ⟨parts, _, rfl, spelled, ordered, rfl⟩

theorem Gives.put {parts : List Part} {settings : Settings} (gives : Gives parts settings)
    {part : Part} (new : part.field ∉ parts.map Part.field) :
    Gives (parts ++ [part]) (part.put settings) := by
  cases part with
  | words given =>
    have absent : ∀ listed, Part.words listed ∉ parts := fun listed member =>
      new (show (Part.words listed).field ∈ _ from List.mem_map_of_mem member)
    exact ⟨by simp [Part.put, absent, eq_comm], by simp [Part.put, gives.strictNumbers]⟩
  | strictNumbers given =>
    have absent : ∀ strict, Part.strictNumbers strict ∉ parts := fun strict member =>
      new (show (Part.strictNumbers strict).field ∈ _ from List.mem_map_of_mem member)
    exact ⟨by simp [Part.put, gives.words], by simp [Part.put, absent, eq_comm]⟩

/-- Parts put in one after the other give what they make, if each field is among them once. -/
theorem Gives.foldl_put {earlier parts : List Part} {settings : Settings}
    (gives : Gives earlier settings) (once : ((earlier ++ parts).map Part.field).Nodup) :
    Gives (earlier ++ parts) (parts.foldl Part.put settings) := by
  induction parts generalizing earlier settings with
  | nil => simpa using gives
  | cons part parts ih =>
    have new : part.field ∉ earlier.map Part.field := by
      rw [List.map_append, List.map_cons] at once
      exact fun member =>
        (List.nodup_append.mp once).2.2 part.field member part.field List.mem_cons_self rfl
    rw [List.append_cons] at once ⊢
    exact ih (gives.put new) once

theorem Gives.unique {parts : List Part} {settings other : Settings} (gives : Gives parts settings)
    (same : Gives parts other) : settings = other := by
  have words : settings.words = other.words :=
    Option.ext fun listed => (gives.words listed).trans (same.words listed).symm
  have strict : settings.strictNumbers = other.strictNumbers :=
    Option.ext fun flag => (gives.strictNumbers flag).trans (same.strictNumbers flag).symm
  cases settings
  cases other
  rw [mk.injEq]
  exact ⟨words, strict⟩

theorem SpellsParts.nodup {parts : List Part} {text : Text} (spelled : SpellsParts parts text) :
    (parts.map Part.field).Nodup := by
  cases spelled with
  | object _ once => exact once
  | list _ ordered => exact ordered.sublist.nodup (by decide)

theorem gives_iff {parts : List Part} {text : Text} (spelled : SpellsParts parts text)
    {settings : Settings} : Gives parts settings ↔ settings = parts.foldl Part.put {} := by
  have nothing : Gives [] {} := ⟨by simp, by simp⟩
  have gives : Gives parts (parts.foldl Part.put {}) := nothing.foldl_put spelled.nodup
  constructor
  · exact fun same => same.unique gives
  · rintro rfl
    exact gives

theorem spells_iff {settings : Settings} {text : Text} : Spells settings text ↔
    ∃ before front behind parts, text = before ++ front ++ behind ∧ Blanks before ∧
      SpellsParts parts front ∧ Blanks behind ∧ settings = parts.foldl Part.put {} := by
  constructor
  · rintro ⟨blank, spelled, free, gives⟩
    exact ⟨_, _, _, _, rfl, blank, spelled, free, (gives_iff spelled).mp gives⟩
  · rintro ⟨before, front, behind, parts, rfl, blank, spelled, free, given⟩
    exact .parts blank spelled free ((gives_iff spelled).mpr given)

/-- A text is read as settings exactly if it spells them. -/
theorem read_eq_ok_iff {settings : Settings} {text : Text} :
    read text = .ok settings ↔ Spells settings text := by
  rw [spells_iff]
  constructor
  · intro done
    unfold read at done
    split at done
    · contradiction
    · rename_i given behind taken
      obtain ⟨before, front, parts, blank, rfl, spelled, rfl⟩ := readEither_eq_ok_iff.mp taken
      split at done
      · rename_i free
        cases done
        exact ⟨before, front, behind, parts, rfl, blank, spelled, skipBlanks_eq_nil_iff.mp free,
          rfl⟩
      · contradiction
  · rintro ⟨before, front, behind, parts, rfl, blank, spelled, free, rfl⟩
    have taken : readEither (before ++ front ++ behind) = .ok (_, behind) :=
      readEither_eq_ok_iff.mpr ⟨before, front, parts, blank, rfl, spelled, rfl⟩
    simp only [read, taken, skipBlanks_eq_nil_iff.mpr free]

end Munch.Settings
