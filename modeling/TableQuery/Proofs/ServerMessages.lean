import TableQuery.Classification
import TableQuery.Proofs.Numerals
import TableQuery.Proofs.Searching

/-! The messages of a MySQL server, alone and behind their number in one text. The number changes nothing for the
    patterns and pieces that are looked for in the message, and the names in a message hold none of the pieces. -/

namespace TableQuery

namespace Classification

/-! ### The messages -/

/-- A name between quotes. -/
def inQuotes (name : String) : String := "'" ++ name ++ "'"

/-- What a server says of a foreign key over a column. What stands around the column (tables, the constraint, the
    referenced column) may be any text. -/
def foreignKeyFails (change front field back : String) : String :=
  change ++ ": a foreign key constraint fails (" ++ front ++ ("FOREIGN KEY (\x60" ++ field ++ "\x60)" ++ back ++ ")")

/-- The messages that a server sends with the numbers of the known errors. -/
inductive ServerMessage : Int → String → Prop
  | duplicate {value key : String} (hvalue : IsWord value) (hkey : IsWord key) :
    ServerMessage 1062 ("Duplicate entry " ++ inQuotes value ++ " for key " ++ inQuotes key)
  | missing {field : String} (hfield : IsWord field) (hne : field ≠ "") (front back : String) :
    ServerMessage 1452 (foreignKeyFails "Cannot add or update a child row" front field back)
  | referenced {field : String} (hfield : IsWord field) (hne : field ≠ "") (front back : String) :
    ServerMessage 1451 (foreignKeyFails "Cannot delete or update a parent row" front field back)
  | null {field : String} (hfield : IsWord field) :
    ServerMessage 1048 ("Column " ++ inQuotes field ++ " cannot be null")
  | tooLong {field : String} (hfield : IsWord field) (row : Nat) :
    ServerMessage 1406 ("Data too long for column " ++ inQuotes field ++ (" at row " ++ natText row))
  | check {name : String} (hname : IsWord name) :
    ServerMessage 3819 ("Check constraint " ++ inQuotes name ++ " is violated.")

/-- What a text holds in front of a message: the number of the error. -/
def numberFront (number : Int) : String := "Error " ++ intText number ++ ": "

/-- A message with its number in front, as one text. -/
def numberedText (number : Int) (message : String) : String := numberFront number ++ message

section
variable {piece name : String}

/-- What holds a blank but no quote does not occur in a quoted word. -/
theorem occursInText_inQuotes (hname : IsWord name) (hblank : ' ' ∈ piece.toList) (hquote : '\'' ∉ piece.toList)
    (front back : String) :
    occursInText piece (front ++ inQuotes name ++ back) = (occursInText piece front || occursInText piece back) := by
  have hne : piece.toList ≠ [] := List.ne_nil_of_mem hblank
  have hword : occursIn piece.toList name.toList = false := hname.occursIn hblank (by decide)
  have htext : (front ++ inQuotes name ++ back).toList =
      front.toList ++ '\'' :: (name.toList ++ '\'' :: back.toList) := by
    simp [inQuotes]
  rw [occursInText, htext, occursIn_append_cons hne hquote, occursIn_append_cons hne hquote, hword, Bool.false_or]
  rfl

end

/-! ### Other wordings -/

/-- Whether a message holds a wording of SQLite: of three of them the name that it is about must follow. -/
def WordedAsSqlite (message : String) : Prop :=
  (∃ c, isNameOrDot c = true ∧ occursInText ("UNIQUE constraint failed: " ++ String.singleton c) message = true) ∨
  occursInText "FOREIGN KEY constraint failed" message = true ∨
  (∃ c, isNameOrDot c = true ∧ occursInText ("NOT NULL constraint failed: " ++ String.singleton c) message = true) ∨
  occursInText "CHECK constraint failed:" message = true

section
variable {piece message : String} {pattern : List PatternPart}

theorem isSome_capture?_iff (h : (pattern.filter PatternPart.isCapture).length = 1) :
    (capture? pattern message).isSome = true ↔ (PatternPart.searchFrom pattern message.toList).isSome = true := by
  unfold capture? PatternPart.search
  split
  · rename_i s hs
    rw [hs]
    exact iff_of_true rfl rfl
  · rename_i hnot
    constructor
    · exact fun h => nomatch h
    · intro hsome
      obtain ⟨captures, hcaptures⟩ := Option.isSome_iff_exists.mp hsome
      obtain ⟨s, hs⟩ := List.length_eq_one_iff.mp ((PatternPart.length_of_searchFrom hcaptures).trans h)
      exact absurd (hs ▸ hcaptures) (hnot s)

/-- A pattern that ends with a run of at least one character is found where its piece stands in front of one. -/
theorem isSome_capture?_run1 {isIn : Char → Bool} : (capture? [exactly piece, .run1 isIn] message).isSome = true ↔
    ∃ c, isIn c = true ∧ occursInText (piece ++ String.singleton c) message = true := by
  rw [isSome_capture?_iff rfl, exactly, PatternPart.isSome_searchFrom_exactly]
  constructor
  · rintro ⟨front, rest, hmessage, hrest⟩
    obtain ⟨c, rest, rfl, hc⟩ := PatternPart.isSome_matchAt_run1.mp hrest
    exact ⟨c, hc, occursIn_iff.mpr ⟨front, rest, by rw [hmessage]; simp⟩⟩
  · rintro ⟨c, hc, hoccurs⟩
    obtain ⟨front, rest, hmessage⟩ := occursIn_iff.mp hoccurs
    refine ⟨front, c :: rest, ?_, PatternPart.isSome_matchAt_run1.mpr ⟨c, rest, rfl, hc⟩⟩
    rw [← hmessage]
    simp

theorem isSome_capture?_checkWord : (capture? checkWordPattern message).isSome = true ↔
    occursInText "CHECK constraint failed:" message = true := by
  have hrest : ∀ cs, (PatternPart.matchAt [.optional ' ', .run isWordChar] cs).isSome = true := by
    intro cs
    cases cs with
    | nil => rfl
    | cons c cs =>
      rw [PatternPart.matchAt]
      split <;> rfl
  rw [isSome_capture?_iff rfl, checkWordPattern, exactly, PatternPart.isSome_searchFrom_exactly, occursInText,
    occursIn_iff]
  constructor
  · rintro ⟨front, rest, hmessage, _⟩
    exact ⟨front, rest, hmessage.symm⟩
  · rintro ⟨front, rest, hmessage⟩
    exact ⟨front, rest, hmessage.symm, hrest rest⟩

theorem isSome_ofWording?_iff : (ofWording? message).isSome = true ↔ WordedAsSqlite message := by
  rw [WordedAsSqlite, ← isSome_capture?_run1, ← isSome_capture?_run1, ← isSome_capture?_checkWord, ofWording?,
    uniquePattern, notNullPattern]
  cases capture? [exactly "UNIQUE constraint failed: ", .run1 isNameOrDot] message with
  | some name => simp
  | none =>
    cases occursInText "FOREIGN KEY constraint failed" message with
    | true => simp
    | false =>
      cases capture? [exactly "NOT NULL constraint failed: ", .run1 isNameOrDot] message with
      | some name => simp
      | none => cases capture? checkWordPattern message <;> simp

end

/-- Words by which other errors are known before those of a missing reference are looked for. -/
def Diverted (message : String) : Prop :=
  WordedAsSqlite message ∨ occursInText "Error 1062" message = true ∨ occursInText "Duplicate entry" message = true

/-- Each of the wordings says that a constraint failed. -/
theorem not_wordedAsSqlite {message : String} (h : occursInText "constraint failed" message = false) :
    ¬ WordedAsSqlite message := by
  have hnot : ∀ {piece : String} (front back : String), piece = front ++ "constraint failed" ++ back →
      ¬ occursInText piece message = true := by
    intro piece front back hpiece hoccurs
    have htrue := occursInText_trans (occursInText_iff.mpr ⟨front, back, hpiece⟩) hoccurs
    rw [h] at htrue
    cases htrue
  rintro (⟨c, _, hc⟩ | hc | ⟨c, _, hc⟩ | hc)
  · exact hnot "UNIQUE " (": " ++ String.singleton c) (by rw [← String.append_assoc]; rfl) hc
  · exact hnot "FOREIGN KEY " "" (by decide) hc
  · exact hnot "NOT NULL " (": " ++ String.singleton c) (by rw [← String.append_assoc]; rfl) hc
  · exact hnot "CHECK " ":" (by decide) hc

/-! ### The number in front -/

theorem known_number {number : Int} {message : String} (h : ServerMessage number message) :
    number ∈ [1062, 1452, 1451, 1048, 1406, 3819] := by
  cases h <;> decide

section
variable {number : Int} {message piece : String} {parts : List PatternPart} {p : Char} {rest : List Char}

/-- None of the wordings and patterns starts in the number. -/
theorem notMem_numberFront (h : ServerMessage number message) (hp : p ∈ ['D', 'F', 'C', 'U', 'N', 'a', 'c']) :
    p ∉ (numberFront number).toList := by
  have hfront : ∀ number ∈ [1062, 1452, 1451, 1048, 1406, 3819],
      ['D', 'F', 'C', 'U', 'N', 'a', 'c'].all (fun p => p ∉ (numberFront number).toList) = true := by decide
  exact of_decide_eq_true (List.all_eq_true.mp (hfront number (known_number h)) p hp)

theorem occursInText_numberedText (h : ServerMessage number message) (hpiece : piece.toList = p :: rest)
    (hp : p ∈ ['D', 'F', 'C', 'U', 'N', 'a', 'c']) :
    occursInText piece (numberedText number message) = occursInText piece message := by
  rw [occursInText, occursInText, numberedText, String.toList_append, hpiece,
    occursIn_append (notMem_numberFront h hp)]

theorem search_numberedText (h : ServerMessage number message) (hpiece : piece.toList = p :: rest)
    (hp : p ∈ ['D', 'F', 'C', 'U', 'N', 'a', 'c']) :
    PatternPart.search (exactly piece :: parts) (numberedText number message) =
      PatternPart.search (exactly piece :: parts) message := by
  rw [PatternPart.search, PatternPart.search, numberedText, String.toList_append, exactly, hpiece,
    PatternPart.searchFrom_append (notMem_numberFront h hp)]

theorem capture?_numberedText (h : ServerMessage number message) (hpiece : piece.toList = p :: rest)
    (hp : p ∈ ['D', 'F', 'C', 'U', 'N', 'a', 'c']) :
    capture? (exactly piece :: parts) (numberedText number message) = capture? (exactly piece :: parts) message := by
  rw [capture?, capture?, search_numberedText h hpiece hp]

end

section
variable {number : Int} {message : String} (h : ServerMessage number message)
include h

theorem ofDuplicate_numberedText : ofDuplicate (numberedText number message) = ofDuplicate message := by
  rw [ofDuplicate, ofDuplicate, duplicatePattern, search_numberedText h rfl (by decide)]

theorem ofForeignKey_numberedText : ofForeignKey (numberedText number message) = ofForeignKey message := by
  rw [ofForeignKey, ofForeignKey, foreignKeyPattern, capture?_numberedText h rfl (by decide)]

theorem ofNull_numberedText : ofNull (numberedText number message) = ofNull message := by
  rw [ofNull, ofNull, nullPattern, capture?_numberedText h rfl (by decide)]

theorem ofTooLong_numberedText : ofTooLong (numberedText number message) = ofTooLong message := by
  rw [ofTooLong, ofTooLong, tooLongPattern, capture?_numberedText h rfl (by decide)]

theorem ofWording?_numberedText : ofWording? (numberedText number message) = ofWording? message := by
  rw [ofWording?, ofWording?, uniquePattern, notNullPattern, checkWordPattern,
    capture?_numberedText h rfl (by decide), capture?_numberedText h rfl (by decide),
    capture?_numberedText h rfl (by decide), occursInText_numberedText h rfl (by decide)]

end

/-! ### The words -/

/-- Pieces that tell one of the other errors, in the order in which they are looked for. -/
def tellingPieces : List String :=
  ["constraint failed", "Error 1062", "Duplicate entry", "Error 1452", "a foreign key constraint fails", "Error 1451",
   "Cannot delete or update a parent row", "Error 1048", "cannot be null", "Error 1406", "Data too long"]

section
variable {number : Int} {message piece : String}

/-- A number in words is found in front of a message only if it is the number of the message. -/
theorem occursInText_otherNumber (h : ServerMessage number message)
    (hpiece : piece ∈ ["Error 1062", "Error 1452", "Error 1451", "Error 1048", "Error 1406"])
    (hnot : ¬ piece.toList <+: (numberFront number).toList) :
    occursInText piece (numberedText number message) = occursInText piece message := by
  have hstart : ∀ piece ∈ ["Error 1062", "Error 1452", "Error 1451", "Error 1048", "Error 1406"],
      ∃ rest, piece.toList = 'E' :: rest ∧ rest.length = 9 := by
    simp only [List.forall_mem_cons, List.not_mem_nil, false_implies, implies_true, and_true]
    exact ⟨⟨_, rfl, rfl⟩, ⟨_, rfl, rfl⟩, ⟨_, rfl, rfl⟩, ⟨_, rfl, rfl⟩, _, rfl, rfl⟩
  have hfront : ∀ number ∈ [1062, 1452, 1451, 1048, 1406, 3819],
      ∃ rest, (numberFront number).toList = 'E' :: rest ∧ 'E' ∉ rest ∧ 9 ≤ rest.length := by
    simp only [List.forall_mem_cons, List.not_mem_nil, false_implies, implies_true, and_true]
    exact ⟨⟨_, rfl, by decide, by decide⟩, ⟨_, rfl, by decide, by decide⟩, ⟨_, rfl, by decide, by decide⟩,
      ⟨_, rfl, by decide, by decide⟩, ⟨_, rfl, by decide, by decide⟩, _, rfl, by decide, by decide⟩
  obtain ⟨needle, hneedle, hlength⟩ := hstart piece hpiece
  obtain ⟨rest, hrest, hE, hle⟩ := hfront number (known_number h)
  have hfirst : startsWith piece.toList ((numberFront number).toList ++ message.toList) = false := by
    rw [← Bool.not_eq_true, startsWith_iff]
    intro hprefix
    refine hnot (List.prefix_of_prefix_length_le hprefix (List.prefix_append _ _) ?_)
    rw [hneedle, hrest, List.length_cons, List.length_cons]
    omega
  rw [occursInText, occursInText, numberedText, String.toList_append]
  rw [hrest, List.cons_append] at hfirst ⊢
  rw [occursIn, hfirst, Bool.false_or, hneedle, occursIn_append hE]

theorem occursInText_ownNumber (number : Int) (message : String) :
    occursInText ("Error " ++ intText number) (numberedText number message) = true := by
  refine occursInText_iff.mpr ⟨"", ": " ++ message, ?_⟩
  rw [String.empty_append, numberedText, numberFront, String.append_assoc]

/-- The number in front of a message tells nothing but itself. -/
theorem not_occurs_numberedText {n : Nat} (h : ServerMessage number message)
    (hfront : ∀ piece ∈ tellingPieces.take n, ¬ piece.toList <+: (numberFront number).toList)
    (hmessage : ∀ piece ∈ tellingPieces.take n, occursInText piece message = false) :
    ∀ piece ∈ tellingPieces.take n, occursInText piece (numberedText number message) = false := by
  intro piece hpiece
  by_cases hnumber : piece ∈ ["Error 1062", "Error 1452", "Error 1451", "Error 1048", "Error 1406"]
  · rw [occursInText_otherNumber h hnumber (hfront piece hpiece), hmessage piece hpiece]
  · have hstart : ∀ piece ∈ tellingPieces,
        piece ∉ ["Error 1062", "Error 1452", "Error 1451", "Error 1048", "Error 1406"] →
          piece.toList.head?.any (· ∈ ['D', 'F', 'C', 'U', 'N', 'a', 'c']) = true := by decide
    obtain ⟨p, hhead, hp⟩ := (Option.any_eq_true _ _).mp (hstart piece (List.mem_of_mem_take hpiece) hnumber)
    obtain ⟨rest, hrest⟩ := List.head?_eq_some_iff.mp hhead
    rw [occursInText_numberedText h hrest (of_decide_eq_true hp), hmessage piece hpiece]

theorem isWord_natText (n : Nat) : IsWord (natText n) := by
  intro c hc
  have hdigit := isDigit_of_mem_natText hc
  have hascii : c.toNat < 128 := Nat.lt_of_le_of_lt (digit_range hdigit).2 (by decide)
  rw [isWordChar, if_pos hascii, Char.isAlphanum, hdigit, Bool.or_true, Bool.true_or]

/-- Pieces with a blank and without quotes occur neither in a quoted word nor across it. -/
theorem not_occurs_inQuotes {pieces : List String} {name front back : String} (hname : IsWord name)
    (hpieces : ∀ piece ∈ pieces, ' ' ∈ piece.toList ∧ '\'' ∉ piece.toList)
    (hfront : ∀ piece ∈ pieces, occursInText piece front = false)
    (hback : ∀ piece ∈ pieces, occursInText piece back = false) :
    ∀ piece ∈ pieces, occursInText piece (front ++ inQuotes name ++ back) = false := by
  intro piece hpiece
  obtain ⟨hblank, hquote⟩ := hpieces piece hpiece
  rw [occursInText_inQuotes hname hblank hquote, hfront piece hpiece, hback piece hpiece, Bool.or_false]

theorem not_occurs_duplicate {value key : String} (hvalue : IsWord value) (hkey : IsWord key) :
    occursInText "constraint failed" ("Duplicate entry " ++ inQuotes value ++ " for key " ++ inQuotes key) = false := by
  have htext : "Duplicate entry " ++ inQuotes value ++ " for key " ++ inQuotes key =
      "Duplicate entry " ++ inQuotes value ++ (" for key " ++ inQuotes key ++ "") := by
    rw [String.append_empty, String.append_assoc, String.append_assoc]
  rw [htext, occursInText_inQuotes hvalue (by decide) (by decide), occursInText_inQuotes hkey (by decide) (by decide)]
  decide

theorem not_occurs_null {field : String} (hfield : IsWord field) : ∀ piece ∈ tellingPieces.take 7,
    occursInText piece ("Column " ++ inQuotes field ++ " cannot be null") = false :=
  not_occurs_inQuotes hfield (by decide) (by decide) (by decide)

theorem not_occurs_tooLong {field : String} (hfield : IsWord field) (row : Nat) : ∀ piece ∈ tellingPieces.take 9,
    occursInText piece ("Data too long for column " ++ inQuotes field ++ (" at row " ++ natText row)) = false := by
  refine not_occurs_inQuotes hfield (by decide) (by decide) ?_
  intro piece hpiece
  -- No piece starts with an end of the words in front and has no other blank behind that.
  have hsplit : ∀ piece ∈ tellingPieces.take 9, ∀ i ≤ piece.toList.length,
      piece.toList.take i <:+ " at row ".toList → ' ' ∈ piece.toList.drop i := by decide
  have hfront : ∀ piece ∈ tellingPieces.take 9, occursInText piece " at row " = false := by decide
  rw [occursInText, String.toList_append,
    occursIn_append_of_notMem ((isWord_natText row).notMem (by decide)) (hsplit piece hpiece)]
  exact hfront piece hpiece

theorem not_occurs_check {name : String} (hname : IsWord name) : ∀ piece ∈ tellingPieces,
    occursInText piece ("Check constraint " ++ inQuotes name ++ " is violated.") = false :=
  not_occurs_inQuotes hname (by decide) (by decide) (by decide)

end

end Classification

end TableQuery
