import TableQuery.Proofs.ServerMessages

/-! Messages of a MySQL server, classified by the number that comes with them and by a text that holds the number.
    The two agree on four of the six numbers, unless the text has words in it by which another error is known: words
    are tried in an order in which those of a missing reference come before a record that is still referenced, and a
    failed check has none. -/

namespace TableQuery

namespace Classification

/-! ### Classification by the text -/

section
variable {number : Int} {message : String} {e : DatabaseError}

theorem kind_ofDuplicate (message : String) : (ofDuplicate message).kind = .duplicate := by
  unfold ofDuplicate
  split <;> rfl

theorem kind_ofForeignKey (message : String) : (ofForeignKey message).kind = .foreignKey := by
  unfold ofForeignKey
  split <;> rfl

theorem kind_ofReferenced (message : String) : (ofReferenced message).kind = .constraintFailed := by
  unfold ofReferenced
  split <;> rfl

theorem message_ofReferenced (message : String) : (ofReferenced message).message = .text stillReferenced := by
  unfold ofReferenced
  split <;> rfl

theorem kind_ofCheck (message : String) : (ofCheck message).kind = .constraintFailed := by
  unfold ofCheck
  split <;> rfl

theorem ofWording?_cases (h : ofWording? message = some e) :
    e.kind = .duplicate ∨ e = .bare .foreignKey ∨ e.kind = .nullConstraint ∨ e = .bare .constraintFailed ∨
      ∃ name, e = .about .constraintFailed (checkFailed name) name := by
  unfold ofWording? at h
  split at h
  · cases h
    exact .inl rfl
  · split at h
    · cases h
      exact .inr (.inl rfl)
    · split at h
      · cases h
        exact .inr (.inr (.inl rfl))
      · split at h
        · rename_i name _
          rw [Option.some_inj] at h
          split at h
          · exact .inr (.inr (.inr (.inl h.symm)))
          · exact .inr (.inr (.inr (.inr ⟨name, h.symm⟩)))
        · cases h

theorem message_bare (kind : ErrorKind) : (DatabaseError.bare kind).message = .text kind.defaultMessage := by
  have hsilent : (Value.text "").isFalsy = true := by simp [Value.isFalsy, Value.isZero]
  rw [DatabaseError.bare, DatabaseError.make, DatabaseError.state, hsilent]
  rfl

/-- An error with a message that says something keeps it. -/
theorem message_about {kind : ErrorKind} {s field : String} (h : s ≠ "") :
    (DatabaseError.about kind s field).message = .text s := by
  have hsays : (Value.text s).isFalsy = false := by simpa [Value.isFalsy, Value.isZero] using h
  rw [DatabaseError.about, DatabaseError.make, DatabaseError.state, hsays]
  rfl

/-- A wording of SQLite does not tell that a record is still referenced. -/
theorem message_of_ofWording? (h : ofWording? message = some e) (hkind : e.kind = .constraintFailed) :
    e.message ≠ .text stillReferenced := by
  rcases ofWording?_cases h with hdup | rfl | hnull | rfl | ⟨name, rfl⟩
  · rw [hdup] at hkind
    cases hkind
  · cases hkind
  · rw [hnull] at hkind
    cases hkind
  · have hne : ErrorKind.defaultMessage .constraintFailed ≠ stillReferenced := by
      rw [ErrorKind.defaultMessage, stillReferenced]
      decide
    rw [message_bare]
    exact fun hmessage => hne (Value.text.inj hmessage)
  · have hhead : (checkFailed name).toList.head? = some 'c' := by
      have hfront : "check constraint '".toList = 'c' :: "heck constraint '".toList := by decide
      unfold checkFailed
      rw [String.append_assoc, String.toList_append, hfront, List.cons_append, List.head?_cons]
    have hne : checkFailed name ≠ "" := by
      intro hempty
      rw [hempty] at hhead
      cases hhead
    rw [message_about hne]
    intro hmessage
    rw [Value.text.inj hmessage] at hhead
    revert hhead
    decide

end

/-! ### Classification by number and by text -/

section
variable {number : Int} {message : String}

theorem ofText_of_words (h : ServerMessage number message) (hworded : ¬ WordedAsSqlite message) (name : String) :
    ofText (numberedText number message) name =
      (ofWords? (numberedText number message)).getD
        (.make .unrecognised (numberedText number message) .null .null) := by
  have hnone : ofWording? message = none := by
    rw [← Option.not_isSome_iff_eq_none, isSome_ofWording?_iff]
    exact hworded
  have hne : (numberedText number message).isEmpty = false := by
    rw [String.isEmpty_eq_false_iff, numberedText, numberFront]
    simp
  rw [ofText, ofWording?_numberedText h, hnone, hne]
  cases ofWords? (numberedText number message) <;> rfl

theorem ofWords?_duplicate (message : String) :
    ofWords? (numberedText 1062 message) = some (ofDuplicate (numberedText 1062 message)) := by
  have hown : occursInText "Error 1062" (numberedText 1062 message) = true := occursInText_ownNumber 1062 message
  simp [ofWords?, hown]

/-- A text without words of a duplicate is about a missing reference if it says that a foreign key fails. -/
theorem ofWords?_foreignKey {text : String} (hnumber : occursInText "Error 1062" text = false)
    (hwords : occursInText "Duplicate entry" text = false)
    (h : occursInText "a foreign key constraint fails" text = true) : ofWords? text = some (ofForeignKey text) := by
  simp [ofWords?, hnumber, hwords, h]

theorem ofWords?_null {text : String} (hothers : ∀ piece ∈ tellingPieces.take 7, occursInText piece text = false)
    (hown : occursInText "Error 1048" text = true) : ofWords? text = some (ofNull text) := by
  simp [tellingPieces] at hothers
  simp [ofWords?, hothers, hown]

theorem ofWords?_tooLong {text : String} (hothers : ∀ piece ∈ tellingPieces.take 9, occursInText piece text = false)
    (hown : occursInText "Error 1406" text = true) : ofWords? text = some (ofTooLong text) := by
  simp [tellingPieces] at hothers
  simp [ofWords?, hothers, hown]

theorem ofWords?_check {text : String} (hothers : ∀ piece ∈ tellingPieces, occursInText piece text = false) :
    ofWords? text = none := by
  simp [tellingPieces] at hothers
  simp [ofWords?, hothers]

theorem occurs_foreignKeyFails (change front field back : String) :
    occursInText "a foreign key constraint fails" (foreignKeyFails change front field back) = true := by
  refine occursInText_iff.mpr ⟨change ++ ": ",
    " (" ++ front ++ ("FOREIGN KEY (\x60" ++ field ++ "\x60)" ++ back ++ ")"), ?_⟩
  have hpiece : ": a foreign key constraint fails (" = ": " ++ "a foreign key constraint fails" ++ " (" := by decide
  rw [foreignKeyFails, hpiece]
  simp only [String.append_assoc]

/-- The column of a foreign key is found in a message about it, unless another one is found in front of it. -/
theorem field_ofForeignKey {field : String} (hfield : IsWord field) (hne : field ≠ "") (change front back : String) :
    (ofForeignKey (foreignKeyFails change front field back)).field ≠ .null := by
  have hsome : (capture? foreignKeyPattern (foreignKeyFails change front field back)).isSome = true := by
    rw [isSome_capture?_iff rfl, foreignKeyPattern, exactly, PatternPart.isSome_searchFrom_exactly]
    refine ⟨(change ++ ": a foreign key constraint fails (" ++ front).toList,
      field.toList ++ '\x60' :: (")" ++ back ++ ")").toList, by simp [foreignKeyFails], ?_⟩
    have hword : ∀ c, isWordChar c = true → decide (c ≠ '\x60') = true := by
      intro c hc
      refine decide_eq_true fun heq => ?_
      rw [heq] at hc
      revert hc
      decide
    have hempty : field.toList.isEmpty = false := by
      rw [List.isEmpty_eq_false_iff]
      exact fun hnil => hne (String.toList_eq_nil_iff.mp hnil)
    have hclose : '\x60' :: (")" ++ back ++ ")").toList = "\x60)".toList ++ (back ++ ")").toList := by simp
    rw [PatternPart.matchAt, hfield.takeWhile_append hword (by decide), hfield.dropWhile_append hword (by decide),
      hempty, if_neg Bool.false_ne_true, exactly, PatternPart.matchAt, hclose, stripFront?_append]
    rfl
  obtain ⟨name, hname⟩ := Option.isSome_iff_exists.mp hsome
  rw [ofForeignKey, hname]
  intro h
  cases h

end

end Classification

/-- What callers tell errors apart by. -/
def DatabaseError.seen (e : DatabaseError) : ErrorKind × Value × Value := (e.kind, e.field, e.message)

namespace Classification

/-- Whether two classifications look the same to a caller: same kind, field and message, or the same failure. -/
def SeenAlike (x y : Outcome DatabaseError) : Prop := x.map DatabaseError.seen = y.map DatabaseError.seen

theorem seenAlike_ok {d e : DatabaseError} : SeenAlike (.ok d) (.ok e) ↔ d.seen = e.seen := by
  rw [SeenAlike, Except.map, Except.map, Except.ok.injEq]

section
variable {a : ErrorAttributes} {number : Int} {message : String}

/-- Errors with the same attributes are classified alike once the attributes decide. -/
theorem classify_eq_of_state (h : ofState? a ≠ .ok none) (name : String) (xs ys : List Value) :
    (Failure.driver ⟨name, xs, a⟩).classify = (Failure.driver ⟨name, ys, a⟩).classify := by
  show (ofState? a >>= _) = (ofState? a >>= _)
  cases hstate : ofState? a with
  | error f => rfl
  | ok d =>
    cases d with
    | none => exact absurd hstate h
    | some d => rfl

theorem classify_of_state_none {e : DriverError} (h : ofState? e.attributes = .ok none) :
    (Failure.driver e).classify = .ok ((ofNumber? e).getD (ofText e.shown e.name)) := by
  show (ofState? e.attributes >>= _) = _
  rw [h]
  dsimp only [bind, Except.bind, Failure.toDriverError]
  cases ofNumber? e <;> rfl

theorem classify_numbered (h : ofState? a = .ok none) {read : String → DatabaseError}
    (hread : byNumber? number = some read) (name message : String) :
    (Failure.driver ⟨name, [.int number, .text message], a⟩).classify = .ok (read message) := by
  have hnumber : ofNumber? ⟨name, [.int number, .text message], a⟩ = some (read message) := by
    show (byNumber? number).map _ = _
    rw [hread]
    rfl
  rw [classify_of_state_none h, hnumber, Option.getD_some]

theorem classify_text (h : ofState? a = .ok none) (name text : String) :
    (Failure.driver ⟨name, [.text text], a⟩).classify = .ok (ofText text name) :=
  classify_of_state_none h

end

/-! ### The text path, message by message -/

section
variable {name : String}

theorem ofText_duplicate {value key : String} (hvalue : IsWord value) (hkey : IsWord key) :
    ofText (numberedText 1062 ("Duplicate entry " ++ inQuotes value ++ " for key " ++ inQuotes key)) name =
      ofDuplicate ("Duplicate entry " ++ inQuotes value ++ " for key " ++ inQuotes key) := by
  have h := ServerMessage.duplicate hvalue hkey
  rw [ofText_of_words h (not_wordedAsSqlite (not_occurs_duplicate hvalue hkey)), ofWords?_duplicate, Option.getD_some,
    ofDuplicate_numberedText h]

theorem ofText_null {field : String} (hfield : IsWord field) :
    ofText (numberedText 1048 ("Column " ++ inQuotes field ++ " cannot be null")) name =
      ofNull ("Column " ++ inQuotes field ++ " cannot be null") := by
  have h := ServerMessage.null hfield
  have hothers := not_occurs_null hfield
  rw [ofText_of_words h (not_wordedAsSqlite (hothers _ (by decide))),
    ofWords?_null (not_occurs_numberedText h (by decide) hothers) (occursInText_ownNumber 1048 _), Option.getD_some,
    ofNull_numberedText h]

theorem ofText_tooLong {field : String} (hfield : IsWord field) (row : Nat) :
    ofText (numberedText 1406 ("Data too long for column " ++ inQuotes field ++ (" at row " ++ natText row))) name =
      ofTooLong ("Data too long for column " ++ inQuotes field ++ (" at row " ++ natText row)) := by
  have h := ServerMessage.tooLong hfield row
  have hothers := not_occurs_tooLong hfield row
  rw [ofText_of_words h (not_wordedAsSqlite (hothers _ (by decide))),
    ofWords?_tooLong (not_occurs_numberedText h (by decide) hothers) (occursInText_ownNumber 1406 _), Option.getD_some,
    ofTooLong_numberedText h]

theorem ofText_check {constraint : String} (hconstraint : IsWord constraint) :
    ofText (numberedText 3819 ("Check constraint " ++ inQuotes constraint ++ " is violated.")) name =
      .make .unrecognised (numberedText 3819 ("Check constraint " ++ inQuotes constraint ++ " is violated.")) .null
        .null := by
  have h := ServerMessage.check hconstraint
  have hothers := not_occurs_check hconstraint
  have hnone := ofWords?_check (not_occurs_numberedText (n := 11) h (by decide) hothers)
  rw [ofText_of_words h (not_wordedAsSqlite (hothers _ (by decide))), hnone, Option.getD_none]

theorem ofText_foreignKey {number : Int} {message : String} (h : ServerMessage number message)
    (hnumber : number = 1452 ∨ number = 1451)
    (hfails : occursInText "a foreign key constraint fails" message = true) (hplain : ¬ Diverted message) :
    ofText (numberedText number message) name = ofForeignKey message := by
  obtain ⟨hworded, hwords⟩ := not_or.mp hplain
  obtain ⟨hnot, hentry⟩ := not_or.mp hwords
  have hfront : ¬ "Error 1062".toList <+: (numberFront number).toList := by
    rcases hnumber with rfl | rfl <;> decide
  have hown : occursInText "Error 1062" (numberedText number message) = false := by
    rw [occursInText_otherNumber h (by decide) hfront]
    exact Bool.eq_false_iff.mpr hnot
  have hduplicate : occursInText "Duplicate entry" (numberedText number message) = false := by
    rw [occursInText_numberedText h rfl (by decide)]
    exact Bool.eq_false_iff.mpr hentry
  have hforeign : occursInText "a foreign key constraint fails" (numberedText number message) = true := by
    rw [occursInText_numberedText h rfl (by decide)]
    exact hfails
  rw [ofText_of_words h hworded, ofWords?_foreignKey hown hduplicate hforeign, Option.getD_some,
    ofForeignKey_numberedText h]

/-- A text with the words of another error in it is taken for that one. -/
theorem ofText_diverted {number : Int} {message : String} (h : ServerMessage number message)
    (hwords : Diverted message) :
    (∃ e, ofWording? message = some e ∧ ofText (numberedText number message) name = e) ∨
      (ofText (numberedText number message) name).kind = .duplicate := by
  by_cases hworded : WordedAsSqlite message
  · obtain ⟨e, he⟩ := Option.isSome_iff_exists.mp (isSome_ofWording?_iff.mpr hworded)
    refine .inl ⟨e, he, ?_⟩
    rw [ofText, ofWording?_numberedText h, he]
    rfl
  · have hpart : ∀ {piece : String}, occursInText piece message = true →
        occursInText piece (numberedText number message) = true := by
      intro piece hpiece
      exact occursInText_trans hpiece (occursInText_iff.mpr ⟨numberFront number, "", (String.append_empty).symm⟩)
    have hfound : ofWords? (numberedText number message) = some (ofDuplicate (numberedText number message)) := by
      rcases hwords with hw | hw | hw
      · exact absurd hw hworded
      · simp [ofWords?, hpart hw]
      · simp [ofWords?, hpart hw]
    refine .inr ?_
    rw [ofText_of_words h hworded, hfound, Option.getD_some]
    exact kind_ofDuplicate _

end

/-! ### Agreement -/

section
variable {field : String} (hfield : IsWord field) (hne : field ≠ "") (front back name : String)
include hfield hne

theorem seen_missing_iff :
    (ofForeignKey (foreignKeyFails "Cannot add or update a child row" front field back)).seen =
        (ofText (numberedText 1452 (foreignKeyFails "Cannot add or update a child row" front field back)) name).seen ↔
      ¬ Diverted (foreignKeyFails "Cannot add or update a child row" front field back) := by
  have h := ServerMessage.missing hfield hne front back
  constructor
  · intro hseen hwords
    have hkind := (congrArg Prod.fst hseen).symm.trans (kind_ofForeignKey _)
    rcases @ofText_diverted name _ _ h hwords with ⟨e, he, htext⟩ | hduplicate
    · -- The wording of a foreign key names no column, the message does.
      rw [htext] at hseen hkind
      rcases ofWording?_cases he with hdup | rfl | hnull | rfl | ⟨_, rfl⟩
      · exact absurd (hdup.symm.trans hkind) (by decide)
      · exact field_ofForeignKey hfield hne _ front back (congrArg (fun s => s.2.1) hseen)
      · exact absurd (hnull.symm.trans hkind) (by decide)
      · cases hkind
      · cases hkind
    · exact absurd (hduplicate.symm.trans hkind) (by decide)
  · intro hplain
    rw [ofText_foreignKey h (.inl rfl) (occurs_foreignKeyFails ..) hplain]

theorem seen_referenced_ne :
    (ofReferenced (foreignKeyFails "Cannot delete or update a parent row" front field back)).seen ≠
      (ofText (numberedText 1451 (foreignKeyFails "Cannot delete or update a parent row" front field back))
        name).seen := by
  have h := ServerMessage.referenced hfield hne front back
  intro hseen
  have hkind := (congrArg Prod.fst hseen).symm.trans (kind_ofReferenced _)
  by_cases hwords : Diverted (foreignKeyFails "Cannot delete or update a parent row" front field back)
  · rcases @ofText_diverted name _ _ h hwords with ⟨e, he, htext⟩ | hduplicate
    · -- A wording may have the same kind, but not the same message.
      rw [htext] at hseen hkind
      exact message_of_ofWording? he hkind
        ((congrArg (fun s => s.2.2) hseen).symm.trans (message_ofReferenced _))
    · exact absurd (hduplicate.symm.trans hkind) (by decide)
  · rw [ofText_foreignKey h (.inr rfl) (occurs_foreignKeyFails ..) hwords] at hkind
    exact absurd ((kind_ofForeignKey _).symm.trans hkind) (by decide)

end

/-- The number and the text of a message that a MySQL server sends are classified alike exactly for the numbers of
    duplicates, nulls and long values, and for a missing reference unless the text has the words of another error in
    it. A record that is still referenced is taken for a missing reference by the text, and a failed check is not
    recognised at all. -/
theorem number_agrees_with_text {number : Int} {message : String} (h : ServerMessage number message) (name : String)
    (a : ErrorAttributes) :
    (SeenAlike (Failure.driver ⟨name, [.int number, .text message], a⟩).classify
        (Failure.driver ⟨name, [.text (numberedText number message)], a⟩).classify ↔
      ofState? a ≠ .ok none ∨ number ∈ [1062, 1048, 1406] ∨ number = 1452 ∧ ¬ Diverted message) ∧
    (ofState? a = .ok none → number = 1451 →
      (Failure.driver ⟨name, [.int number, .text message], a⟩).classify = .ok (ofReferenced message) ∧
      (¬ Diverted message → (Failure.driver ⟨name, [.text (numberedText number message)], a⟩).classify =
        .ok (ofForeignKey message))) ∧
    (ofState? a = .ok none → number = 3819 →
      (Failure.driver ⟨name, [.int number, .text message], a⟩).classify = .ok (ofCheck message) ∧
      (Failure.driver ⟨name, [.text (numberedText number message)], a⟩).classify =
        .ok (.make .unrecognised (numberedText number message) .null .null)) := by
  -- Where attributes of the error tell its state, neither number nor text are looked at.
  by_cases hstate : ofState? a = .ok none
  · have hseen : ∀ {read : String → DatabaseError}, byNumber? number = some read →
        (SeenAlike (Failure.driver ⟨name, [.int number, .text message], a⟩).classify
          (Failure.driver ⟨name, [.text (numberedText number message)], a⟩).classify ↔
            (read message).seen = (ofText (numberedText number message) name).seen) := by
      intro read hread
      rw [classify_numbered hstate hread, classify_text hstate, seenAlike_ok]
    cases h with
    | duplicate hvalue hkey =>
      refine ⟨(hseen rfl).trans ?_, fun _ hn => by simp at hn, fun _ hn => by simp at hn⟩
      rw [ofText_duplicate hvalue hkey]
      exact iff_of_true rfl (.inr (.inl (by decide)))
    | missing hfield hne front back =>
      refine ⟨(hseen rfl).trans ?_, fun _ hn => by simp at hn, fun _ hn => by simp at hn⟩
      rw [seen_missing_iff hfield hne]
      simp [hstate]
    | referenced hfield hne front back =>
      refine ⟨(hseen rfl).trans (iff_of_false (seen_referenced_ne hfield hne front back name) (by simp [hstate])),
        fun _ _ => ⟨classify_numbered hstate rfl name _, fun hplain => ?_⟩, fun _ hn => by simp at hn⟩
      rw [classify_text hstate, ofText_foreignKey (.referenced hfield hne front back) (.inr rfl)
        (occurs_foreignKeyFails ..) hplain]
    | null hfield =>
      refine ⟨(hseen rfl).trans ?_, fun _ hn => by simp at hn, fun _ hn => by simp at hn⟩
      rw [ofText_null hfield]
      exact iff_of_true rfl (.inr (.inl (by decide)))
    | tooLong hfield row =>
      refine ⟨(hseen rfl).trans ?_, fun _ hn => by simp at hn, fun _ hn => by simp at hn⟩
      rw [ofText_tooLong hfield row]
      exact iff_of_true rfl (.inr (.inl (by decide)))
    | check hname =>
      have htext := @ofText_check name _ hname
      refine ⟨(hseen rfl).trans (iff_of_false ?_ (by simp [hstate])), fun _ hn => by simp at hn,
        fun _ _ => ⟨classify_numbered hstate rfl name _, by rw [classify_text hstate, htext]⟩⟩
      rw [htext]
      intro heq
      have hkind : ErrorKind.constraintFailed = .unrecognised := (kind_ofCheck _).symm.trans (congrArg Prod.fst heq)
      cases hkind
  · refine ⟨iff_of_true ?_ (.inl hstate), fun h => absurd h hstate, fun h => absurd h hstate⟩
    exact congrArg (Except.map DatabaseError.seen) (classify_eq_of_state hstate name _ _)

theorem number_agrees_with_text_referenced :
    ServerMessage 1451 (foreignKeyFails "Cannot delete or update a parent row" "\x60app\x60.\x60posts\x60, " "user_id"
      " REFERENCES \x60users\x60 (\x60id\x60)") ∧
    ¬ SeenAlike (Failure.driver ⟨"IntegrityError", [.int 1451, .text (foreignKeyFails
        "Cannot delete or update a parent row" "\x60app\x60.\x60posts\x60, " "user_id"
        " REFERENCES \x60users\x60 (\x60id\x60)")], .none⟩).classify
      (Failure.driver ⟨"IntegrityError", [.text (numberedText 1451 (foreignKeyFails
        "Cannot delete or update a parent row" "\x60app\x60.\x60posts\x60, " "user_id"
        " REFERENCES \x60users\x60 (\x60id\x60)"))], .none⟩).classify := by
  have h : ServerMessage 1451 _ := @ServerMessage.referenced "user_id" (by decide) (by decide)
    "\x60app\x60.\x60posts\x60, " " REFERENCES \x60users\x60 (\x60id\x60)"
  refine ⟨h, fun halike => ?_⟩
  rcases (number_agrees_with_text h "IntegrityError" .none).1.mp halike with hstate | hnumber | hmissing
  · exact hstate rfl
  · revert hnumber
    decide
  · exact absurd hmissing.1 (by decide)

end Classification

end TableQuery
