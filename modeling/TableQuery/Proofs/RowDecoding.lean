import TableQuery.Model.Rows
import TableQuery.Proofs.JsonReading
import TableQuery.Proofs.Outcomes

/-! What becomes of a row when its JSON columns are decoded. The columns keep their names and their order. A value that is
    looked at becomes the value that its text denotes; where the text is not JSON, and where a value is not looked at, it
    stays as it is. Bytes that are not text are refused, and so is text with a number of very many digits. -/

namespace TableQuery

namespace Row

/-- The values that are looked at: text and bytes in the JSON columns of the model, or, without a model, text that starts
    like a container. -/
inductive Eligible : Option Model → String → Value → Prop
  | text {m : Model} {column s : String} (h : column ∈ m.jsonColumns) : Eligible (some m) column (.text s)
  | bytes {m : Model} {column : String} {bs : List UInt8} (h : column ∈ m.jsonColumns) :
    Eligible (some m) column (.bytes bs)
  | container {column s : String} {c : Char} {tail : List Char} (hs : s.toList = c :: tail) (hc : c = '\x7b' ∨ c = '[') :
    Eligible none column (.text s)

/-- The text of a value: that of text itself, and that which bytes store. -/
def textOf? : Value → Option String
  | .text s => some s
  | .bytes bs => textOfBytes? bs
  | _ => none

/-- What becomes of a column. -/
inductive Decoded (m : Option Model) : String × Value → String × Value → Prop
  | read {column s : String} {v w : Value} (h : Eligible m column v) (htext : textOf? v = some s)
    (hdenotes : Json.Denotes none s w) : Decoded m (column, v) (column, w)
  | kept {column s : String} {v : Value} (h : Eligible m column v) (htext : textOf? v = some s)
    (hmalformed : ∀ w, ¬ Json.Denotes none s w) : Decoded m (column, v) (column, v)
  | passed {column : String} {v : Value} (h : ¬ Eligible m column v) : Decoded m (column, v) (column, v)

/-- A value that can be looked at: it is text or stores text, and no number is met in the text that is too long. -/
def Legible (v : Value) : Prop := ∃ s, textOf? v = some s ∧ ∀ n, Json.read s ≠ .error (.tooLong n)

/-- Why a column cannot be decoded: bytes do not store text, or very many digits stand in a row. -/
inductive Undecoded : Value → Failure → Prop
  | bytes {v : Value} (h : textOf? v = none) : Undecoded v .undecodable
  | digits {v : Value} {s : String} {n : Nat} (htext : textOf? v = some s) (hmost : maxNumeralDigits < n)
    (hrun : Json.Run s.toList n) : Undecoded v (.misuse (.tooManyDigits n))

/-! ### One column -/

/-- A column with its value, decoded where it is looked at. -/
def decodeEntry (m : Option Model) (e : String × Value) : Outcome (String × Value) := do
  let eligible := match m with
    | some m => m.jsonColumns.contains e.1
    | none => looksLikeJson e.2
  let v ← if eligible then decodeColumn e.2 else .ok e.2
  .ok (e.1, v)

theorem decode_eq_mapM (m : Option Model) (row : Row) : decode m row = row.mapM (decodeEntry m) := by
  cases m <;> rfl

section
variable {m : Option Model} {column : String} {v : Value}

theorem looksLikeJson_iff : looksLikeJson v = true ↔ ∃ s c tail, v = .text s ∧ s.toList = c :: tail ∧ (c = '\x7b' ∨ c = '[') := by
  constructor
  · intro h
    unfold looksLikeJson at h
    split at h
    · rename_i s
      split at h
      · rename_i c tail hs
        simp only [Bool.or_eq_true, decide_eq_true_eq] at h
        exact ⟨s, c, tail, rfl, hs, h⟩
      · cases h
    · cases h
  · rintro ⟨s, c, tail, rfl, hs, hc⟩
    simpa only [looksLikeJson, hs, Bool.or_eq_true, decide_eq_true_eq] using hc

theorem decodeEntry_passed (h : ¬ Eligible m column v) : decodeEntry m (column, v) = .ok (column, v) := by
  cases m with
  | none =>
    have hlooks : ¬ looksLikeJson v = true := fun hlooks => by
      obtain ⟨s, c, tail, rfl, hs, hc⟩ := looksLikeJson_iff.mp hlooks
      exact h (.container hs hc)
    show (if looksLikeJson v = true then _ else _) = _
    rw [if_neg hlooks]
    rfl
  | some m =>
    show (if m.jsonColumns.contains column = true then _ else _) = _
    split
    · rename_i hcolumn
      have hmem : column ∈ m.jsonColumns := List.contains_iff_mem.mp hcolumn
      cases v with
      | text s => exact absurd (.text hmem) h
      | bytes bs => exact absurd (.bytes hmem) h
      | _ => rfl
    · rfl

theorem decodeEntry_eligible (h : Eligible m column v) : decodeEntry m (column, v) = (decodeColumn v).map (column, ·) := by
  unfold decodeEntry
  dsimp only
  rw [if_pos]
  · cases decodeColumn v <;> rfl
  · cases h with
    | text hmem | bytes hmem => exact List.contains_iff_mem.mpr hmem
    | container hs hc => exact looksLikeJson_iff.mpr ⟨_, _, _, rfl, hs, hc⟩

/-- What is looked at and has no text is bytes. -/
theorem Eligible.decodeColumn_undecodable (h : Eligible m column v) (htext : textOf? v = none) :
    decodeColumn v = .error .undecodable := by
  cases h with
  | text | container => cases htext
  | @bytes _ _ bs =>
    have hbytes : textOfBytes? bs = none := htext
    simp only [decodeColumn, hbytes]

/-- What becomes of a value once its text has been read. -/
def afterReading (v : Value) : Except Json.ReadError Value → Outcome Value
  | .ok w => .ok w
  | .error .malformed => .ok v
  | .error (.tooLong n) => .error (.misuse (.tooManyDigits n))

theorem decodeColumn_of_textOf? {s : String} (htext : textOf? v = some s) :
    decodeColumn v = afterReading v (Json.read s) := by
  cases v with
  | text =>
    cases htext
    rfl
  | bytes bs =>
    have hbytes : textOfBytes? bs = some s := htext
    simp only [decodeColumn, hbytes]
    rfl
  | _ => cases htext

/-- A column that is looked at is decoded, kept, or refused. -/
theorem decodeEntry_cases (e : String × Value) :
    (∃ f, decodeEntry m e = .ok f ∧ Decoded m e f ∧ (Eligible m e.1 e.2 → Legible e.2)) ∨
    ∃ f, decodeEntry m e = .error f ∧ Undecoded e.2 f ∧ Eligible m e.1 e.2 ∧ ¬ Legible e.2 := by
  obtain ⟨column, v⟩ := e
  by_cases heligible : Eligible m column v
  · rw [decodeEntry_eligible heligible]
    cases htext : textOf? v with
    | none =>
      rw [heligible.decodeColumn_undecodable htext]
      refine .inr ⟨_, rfl, .bytes htext, heligible, fun ⟨s, hs, _⟩ => ?_⟩
      cases htext.symm.trans hs
    | some s =>
      rw [decodeColumn_of_textOf? htext]
      cases hread : Json.read s with
      | ok w =>
        refine .inl ⟨_, rfl, .read heligible htext (Json.denotes_of_readWithin hread), fun _ => ⟨s, htext, fun n hlong => ?_⟩⟩
        cases hread.symm.trans hlong
      | error e =>
        cases e with
        | malformed =>
          refine .inl ⟨_, rfl, .kept heligible htext (Json.not_denotes_of_readWithin hread),
            fun _ => ⟨s, htext, fun n hlong => ?_⟩⟩
          cases hread.symm.trans hlong
        | tooLong n =>
          obtain ⟨hmost, hrun⟩ := Json.run_of_readWithin hread
          refine .inr ⟨_, rfl, .digits htext hmost hrun, heligible, fun ⟨s', hs', hlegible⟩ => ?_⟩
          cases htext.symm.trans hs'
          exact hlegible n hread
  · exact .inl ⟨_, decodeEntry_passed heligible, .passed heligible, fun h => absurd h heligible⟩

end

/-! ### Rows -/

end Row

end TableQuery
