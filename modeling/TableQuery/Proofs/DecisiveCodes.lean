import TableQuery.Proofs.FailedStatements
import TableQuery.Proofs.NumberAndText

/-! Codes that decide the kind of an error. Four readings of an error are tried in turn: its state, its number, the
    wording of SQLite and known words. The first two come with tables of codes; a code that is in its table decides
    the kind at once, so that texts, which may quote what users typed, count only where no code is known. -/

namespace TableQuery

namespace Classification

/-! ### The codes -/

/-- Whether the detail of an error says that a record is still referenced. -/
def saysReferenced (a : ErrorAttributes) : Bool :=
  match a.detail with
  | some (.text detail) => occursInText "still referenced" detail
  | _ => false

/-- The states that are known, with the kinds of their errors. -/
def knownStates (referenced : Bool) : List (String × ErrorKind) :=
  [("23505", .duplicate), ("23503", if referenced then .constraintFailed else .foreignKey),
   ("23502", .nullConstraint), ("22001", .dataTooLong), ("23514", .constraintFailed)]

/-- The kind of an error with a known state. -/
def stateKind? (a : ErrorAttributes) : Option ErrorKind :=
  match a.sqlstate with
  | some (.text state) => (knownStates (saysReferenced a)).lookup state
  | _ => none

/-- The numbers that are known, with the kinds of their errors. -/
def knownNumbers : List (Int × ErrorKind) :=
  [(1062, .duplicate), (1452, .foreignKey), (1451, .constraintFailed), (1048, .nullConstraint), (1406, .dataTooLong),
   (3819, .constraintFailed)]

/-- The kind of an error with a known number in front of at least one more argument. -/
def numberKind? (arguments : List Value) : Option ErrorKind :=
  match arguments with
  | .int number :: _ :: _ => knownNumbers.lookup number
  | _ => none

/-- The words by which errors without a code are known. -/
def knownWords : List String :=
  ["Error 1062", "Duplicate entry", "Error 1452", "a foreign key constraint fails", "Error 1451",
   "Cannot delete or update a parent row", "Error 1048", "cannot be null", "Error 1406", "Data too long"]

/-- An error that nothing is known by: neither a code nor a wording of SQLite nor any of the words. -/
structure Unknown (e : DriverError) : Prop where
  state : stateKind? e.attributes = none
  number : numberKind? e.arguments = none
  wording : ¬ WordedAsSqlite e.shown
  words : ∀ word ∈ knownWords, occursInText word e.shown = false

/-! ### By the state -/

section
variable {a : ErrorAttributes} {d : DatabaseError}

theorem kind_make (kind : ErrorKind) (message : String) (field value : Value) :
    (DatabaseError.make kind message field value).kind = kind :=
  rfl

theorem kind_ofDuplicateKey (h : ofDuplicateKey a = .ok d) : d.kind = .duplicate := by
  obtain ⟨detail, -, h⟩ := bind_eq_ok.mp h
  split at h
  · cases h
    exact kind_make ..
  · obtain ⟨name, -, h⟩ := bind_eq_ok.mp h
    cases h
    exact kind_make ..

theorem occursInText_detailOf {detail : String} (h : detailOf a = .ok detail) :
    occursInText "still referenced" detail = saysReferenced a := by
  unfold detailOf attributeText at h
  unfold saysReferenced
  split at h
  · rename_i hnone
    cases h
    rw [hnone]
    decide
  · rename_i v hv
    rw [hv]
    split at h
    · rename_i hsilent
      cases h
      split
      · rename_i text htext
        cases htext
        have hempty : text = "" := by simpa [Value.isFalsy, Value.isZero] using hsilent
        rw [hempty]
      · decide
    · split at h
      · cases h
        rfl
      · cases h
      · cases h

theorem kind_ofForeignReference (h : ofForeignReference a = .ok d) :
    d.kind = if saysReferenced a then .constraintFailed else .foreignKey := by
  obtain ⟨detail, hdetail, h⟩ := bind_eq_ok.mp h
  rw [← occursInText_detailOf hdetail]
  dsimp only at h
  by_cases hused : occursInText "still referenced" detail = true
  · rw [if_pos hused] at h ⊢
    cases h
    exact kind_make ..
  · rw [if_neg hused] at h ⊢
    split at h <;> cases h <;> exact kind_make ..

theorem legible_of_searchable (hdetail : Searchable a.detail) (hconstraint : Searchable a.constraintName) : Legible a :=
  ⟨fun _ => ⟨hdetail, fun _ _ _ => hconstraint⟩, fun _ => hdetail⟩

theorem map_kind_ofState? {d? : Option DatabaseError} (h : ofState? a = .ok d?) :
    d?.map DatabaseError.kind = stateKind? a := by
  cases hstate : a.sqlstate with
  | none =>
    simp only [ofState?, hstate, Except.ok.injEq] at h
    rw [← h, stateKind?, hstate]
    rfl
  | some v =>
    cases v with
    | text state =>
      rw [stateKind?, hstate]
      simp only [ofState?, hstate] at h
      -- One case for each code, in the order of the table.
      by_cases h₁ : state = "23505"
      · rw [if_pos h₁] at h
        obtain ⟨d, hd, rfl⟩ := map_eq_ok.mp h
        rw [h₁, Option.map_some, kind_ofDuplicateKey hd]
        rfl
      by_cases h₂ : state = "23503"
      · rw [if_neg h₁, if_pos h₂] at h
        obtain ⟨d, hd, rfl⟩ := map_eq_ok.mp h
        rw [h₂, Option.map_some, kind_ofForeignReference hd]
        rfl
      by_cases h₃ : state = "23502"
      · rw [if_neg h₁, if_neg h₂, if_pos h₃, Except.ok.injEq] at h
        rw [← h, h₃]
        rfl
      by_cases h₄ : state = "22001"
      · rw [if_neg h₁, if_neg h₂, if_neg h₃, if_pos h₄, Except.ok.injEq] at h
        rw [← h, h₄]
        rfl
      by_cases h₅ : state = "23514"
      · rw [if_neg h₁, if_neg h₂, if_neg h₃, if_neg h₄, if_pos h₅, Except.ok.injEq] at h
        rw [← h, h₅]
        rfl
      · rw [if_neg h₁, if_neg h₂, if_neg h₃, if_neg h₄, if_neg h₅, Except.ok.injEq] at h
        have hunknown : (knownStates (saysReferenced a)).lookup state = none := by
          simp [knownStates, List.lookup_eq_none_iff, h₁, h₂, h₃, h₄, h₅]
        rw [← h]
        exact hunknown.symm
    | _ =>
      simp only [ofState?, hstate, Except.ok.injEq] at h
      rw [← h, stateKind?, hstate]
      rfl

end

/-! ### By the number -/

section
variable {message : String}

theorem kind_ofNull (message : String) : (ofNull message).kind = .nullConstraint := by
  unfold ofNull
  split <;> rfl

theorem kind_ofTooLong (message : String) : (ofTooLong message).kind = .dataTooLong := by
  unfold ofTooLong
  split <;> rfl

/-- Whether a number is known and of which kind its errors are does not depend on the message. -/
theorem map_kind_byNumber? (number : Int) (message : String) :
    (byNumber? number).map (fun read => (read message).kind) = knownNumbers.lookup number := by
  unfold byNumber?
  by_cases h₁ : number = 1062
  · rw [if_pos h₁, h₁, Option.map_some, kind_ofDuplicate]
    rfl
  by_cases h₂ : number = 1452
  · rw [if_neg h₁, if_pos h₂, h₂, Option.map_some, kind_ofForeignKey]
    rfl
  by_cases h₃ : number = 1451
  · rw [if_neg h₁, if_neg h₂, if_pos h₃, h₃, Option.map_some, kind_ofReferenced]
    rfl
  by_cases h₄ : number = 1048
  · rw [if_neg h₁, if_neg h₂, if_neg h₃, if_pos h₄, h₄, Option.map_some, kind_ofNull]
    rfl
  by_cases h₅ : number = 1406
  · rw [if_neg h₁, if_neg h₂, if_neg h₃, if_neg h₄, if_pos h₅, h₅, Option.map_some, kind_ofTooLong]
    rfl
  by_cases h₆ : number = 3819
  · rw [if_neg h₁, if_neg h₂, if_neg h₃, if_neg h₄, if_neg h₅, if_pos h₆, h₆, Option.map_some, kind_ofCheck]
    rfl
  · rw [if_neg h₁, if_neg h₂, if_neg h₃, if_neg h₄, if_neg h₅, if_neg h₆, Option.map_none]
    have hunknown : knownNumbers.lookup number = none := by
      simp [knownNumbers, List.lookup_eq_none_iff, h₁, h₂, h₃, h₄, h₅, h₆]
    exact hunknown.symm

theorem map_kind_ofNumber? (e : DriverError) : (ofNumber? e).map DatabaseError.kind = numberKind? e.arguments := by
  obtain ⟨name, arguments, attributes⟩ := e
  cases arguments with
  | nil => rfl
  | cons v rest =>
    cases v with
    | int number =>
      cases rest with
      | nil => rfl
      | cons message rest => exact (Option.map_map ..).trans (map_kind_byNumber? number message.display)
    | _ => rfl

/-! ### By the text -/

theorem kind_ofWording? {d : DatabaseError} (h : ofWording? message = some d) : d.kind ≠ .unrecognised := by
  rcases ofWording?_cases h with hkind | rfl | hkind | rfl | ⟨name, rfl⟩
  · rw [hkind]
    decide
  · exact nofun
  · rw [hkind]
    decide
  · exact nofun
  · exact nofun

theorem kind_ofWords? {d : DatabaseError} (h : ofWords? message = some d) : d.kind ≠ .unrecognised := by
  unfold ofWords? at h
  dsimp only at h
  split at h
  · rw [← Option.some.inj h, kind_ofDuplicate]
    decide
  split at h
  · rw [← Option.some.inj h, kind_ofForeignKey]
    decide
  split at h
  · rw [← Option.some.inj h, kind_ofReferenced]
    decide
  split at h
  · rw [← Option.some.inj h, kind_ofNull]
    decide
  split at h
  · rw [← Option.some.inj h, kind_ofTooLong]
    decide
  · cases h

theorem ofWords?_eq_none_iff :
    ofWords? message = none ↔ ∀ word ∈ knownWords, occursInText word message = false := by
  simp [ofWords?, knownWords, ite_eq_iff, and_assoc]

theorem ofText_of_unknown (hwording : ¬ WordedAsSqlite message)
    (hwords : ∀ word ∈ knownWords, occursInText word message = false) (name : String) :
    ofText message name = .make .unrecognised (if message = "" then name else message) .null .null := by
  have hnone : ofWording? message = none := by
    rw [← Option.not_isSome_iff_eq_none, isSome_ofWording?_iff]
    exact hwording
  rw [ofText, hnone, ofWords?_eq_none_iff.mpr hwords]
  dsimp only [Option.orElse]
  simp only [String.isEmpty_iff]

theorem kind_ofText_iff {name : String} : (ofText message name).kind = .unrecognised ↔
    ¬ WordedAsSqlite message ∧ ∀ word ∈ knownWords, occursInText word message = false := by
  constructor
  · intro hkind
    rw [← isSome_ofWording?_iff, ← ofWords?_eq_none_iff]
    unfold ofText at hkind
    cases hwording : ofWording? message with
    | some d =>
      rw [hwording] at hkind
      exact absurd hkind (kind_ofWording? hwording)
    | none =>
      cases hwords : ofWords? message with
      | some d =>
        rw [hwording, hwords] at hkind
        exact absurd hkind (kind_ofWords? hwords)
      | none => exact ⟨nofun, rfl⟩
  · rintro ⟨hwording, hwords⟩
    rw [ofText_of_unknown hwording hwords]
    exact kind_make ..

end

/-! ### Who decides -/

section
variable {e : DriverError} {kind : ErrorKind}

/-- No code stands for an error that is not recognised, if its table has none that does. -/
theorem ne_unrecognised_of_lookup {α : Type} [BEq α] [LawfulBEq α] {table : List (α × ErrorKind)} {code : α}
    (htable : ∀ entry ∈ table, entry.2 ≠ .unrecognised) (h : table.lookup code = some kind) : kind ≠ .unrecognised := by
  obtain ⟨front, back, rfl, -⟩ := List.lookup_eq_some_iff.mp h
  exact htable _ (List.mem_append_right front List.mem_cons_self)

theorem stateKind?_ne_unrecognised (h : stateKind? e.attributes = some kind) : kind ≠ .unrecognised := by
  have htable : ∀ referenced, ∀ entry ∈ knownStates referenced, entry.2 ≠ .unrecognised := by decide
  unfold stateKind? at h
  split at h
  · exact ne_unrecognised_of_lookup (htable _) h
  · cases h

theorem numberKind?_ne_unrecognised (h : numberKind? e.arguments = some kind) : kind ≠ .unrecognised := by
  have htable : ∀ entry ∈ knownNumbers, entry.2 ≠ .unrecognised := by decide
  unfold numberKind? at h
  split at h
  · exact ne_unrecognised_of_lookup htable h
  · cases h

/-- An error with a known code is of its kind; one without a known code is read by its text. -/
theorem classify_cases (h : Legible e.attributes) :
    (∃ d, (Failure.driver e).classify = .ok d ∧
      (stateKind? e.attributes).or (numberKind? e.arguments) = some d.kind) ∨
    (Failure.driver e).classify = .ok (ofText e.shown e.name) ∧
      stateKind? e.attributes = none ∧ numberKind? e.arguments = none := by
  obtain ⟨d?, hd⟩ := ofState?_of_legible h
  have hstate := map_kind_ofState? hd
  cases d? with
  | some d =>
    refine .inl ⟨d, bind_eq_ok.mpr ⟨some d, hd, rfl⟩, ?_⟩
    rw [← hstate]
    rfl
  | none =>
    have hnumber := map_kind_ofNumber? e
    rw [classify_of_state_none hd, ← hstate, ← hnumber]
    cases ofNumber? e with
    | some d => exact .inl ⟨d, rfl, rfl⟩
    | none => exact .inr ⟨rfl, rfl, rfl⟩

end

/-- A known code decides the kind of an error of a driver, whatever else the error says: first its state, then its
    number. An error is unrecognised exactly if nothing is known by which to tell it; it keeps its text then, or gets
    the name of its type for one. -/
theorem code_decides_kind (e : DriverError) (hdetail : Searchable e.attributes.detail)
    (hconstraint : Searchable e.attributes.constraintName) :
    ∃ d, (Failure.driver e).classify = .ok d ∧
      (∀ kind, stateKind? e.attributes = some kind → d.kind = kind) ∧
      (stateKind? e.attributes = none → ∀ kind, numberKind? e.arguments = some kind → d.kind = kind) ∧
      (d.kind = .unrecognised ↔ Unknown e) ∧
      (Unknown e → e.name ≠ "" →
        d = ⟨.unrecognised, .text (if e.shown = "" then e.name else e.shown), .null, .null⟩) := by
  rcases classify_cases (legible_of_searchable hdetail hconstraint) with ⟨d, hd, hcode⟩ | ⟨hd, hstate, hnumber⟩
  · refine ⟨d, hd, fun kind hkind => ?_, fun hnone kind hkind => ?_, ?_, fun hunknown => ?_⟩
    · rw [hkind, Option.some_or, Option.some_inj] at hcode
      exact hcode.symm
    · rw [hnone, Option.none_or, hkind, Option.some_inj] at hcode
      exact hcode.symm
    · refine iff_of_false (fun hkind => ?_) fun hunknown => ?_
      · rcases Option.or_eq_some_iff.mp hcode with hstate | ⟨-, hnumber⟩
        · exact stateKind?_ne_unrecognised hstate hkind
        · exact numberKind?_ne_unrecognised hnumber hkind
      · rw [hunknown.state, hunknown.number] at hcode
        cases hcode
    · rw [hunknown.state, hunknown.number] at hcode
      cases hcode
  · refine ⟨_, hd, fun kind hkind => ?_, fun _ kind hkind => ?_, ?_, fun hunknown hname => ?_⟩
    · rw [hstate] at hkind
      cases hkind
    · rw [hnumber] at hkind
      cases hkind
    · rw [kind_ofText_iff]
      exact ⟨fun ⟨hwording, hwords⟩ => ⟨hstate, hnumber, hwording, hwords⟩, fun h => ⟨h.wording, h.words⟩⟩
    · have hsays : (if e.shown = "" then e.name else e.shown) ≠ "" := by
        split
        · exact hname
        · assumption
      have hspoken : (Value.text (if e.shown = "" then e.name else e.shown)).isFalsy = false := by
        simpa [Value.isFalsy, Value.isZero] using hsays
      rw [ofText_of_unknown hunknown.wording hunknown.words, DatabaseError.make, DatabaseError.state, hspoken]
      rfl

/-- An error about a missing record, with the number, the words and a wording of others. -/
theorem code_decides_kind_missing :
    ∃ d, (Failure.driver ⟨"ForeignKeyViolationError",
        [.int 1062, .text "Duplicate entry 'UNIQUE constraint failed: a.b' is still referenced"],
        ⟨some (.text "23503"), some (.text "Key (owner)=(7) is not present in table \"users\"."), none, none⟩⟩).classify
      = .ok d ∧ d.kind = .foreignKey := by
  have h := code_decides_kind ⟨"ForeignKeyViolationError",
    [.int 1062, .text "Duplicate entry 'UNIQUE constraint failed: a.b' is still referenced"],
    ⟨some (.text "23503"), some (.text "Key (owner)=(7) is not present in table \"users\"."), none, none⟩⟩
    (fun v hv _ => ⟨_, (Option.some.inj hv).symm⟩) (fun v hv _ => nomatch hv)
  obtain ⟨d, hd, hstate, -⟩ := h
  exact ⟨d, hd, hstate _ (by decide)⟩

end Classification

end TableQuery
