import TableQuery.Query.Operator

/-! Operators, connectives and directions: each canonical spelling is read as what it spells, and has no separator of a
    query string in it and no blank at its end; and an operator is of one kind only. -/

namespace TableQuery

namespace Operator

variable {op : Operator}

theorem ofSpelling?_eq_some {s : String} : ofSpelling? s = some op ↔ s = op.spelling := by
  constructor
  · intro h
    have hspelled := List.find?_some h
    exact (of_decide_eq_true hspelled).symm
  · rintro rfl
    cases op <;> rfl

theorem ofValue_eq_ok {v : Value} : ofValue v = .ok op ↔ normalize v = op.spelling := by
  rw [← ofSpelling?_eq_some, ofValue]
  cases ofSpelling? (normalize v) with
  | some o => simp
  | none => simp

@[simp]
theorem canonicalSpelling_spelling (op : Operator) : canonicalSpelling op.spelling = op.spelling := by
  cases op <;> rfl

@[simp]
theorem ofValue_spelling (op : Operator) : ofValue (.text op.spelling) = .ok op :=
  ofValue_eq_ok.mpr (canonicalSpelling_spelling op)

theorem colon_notMem_spelling (op : Operator) : ':' ∉ op.spelling.toList := by
  cases op <;> decide

theorem bar_notMem_spelling (op : Operator) : '|' ∉ op.spelling.toList := by
  cases op <;> decide

theorem isRange_of_isMembership (h : op.isMembership = true) : op.isRange = false := by
  cases op <;> first | rfl | cases h

theorem isNullCheck_of_isRange (h : op.isRange = true) : op.isNullCheck = false := by
  cases op <;> first | rfl | cases h

theorem takesSequence_of_isMembership (h : op.isMembership = true) : op.takesSequence = true := by
  rw [takesSequence, h, Bool.true_or]

theorem takesSequence_of_isRange (h : op.isRange = true) : op.takesSequence = true := by
  rw [takesSequence, h, Bool.or_true]

theorem exists_getLast_spelling (op : Operator) : ∃ c, op.spelling.toList.getLast? = some c ∧ isBlank c = false := by
  cases op <;> exact ⟨_, rfl, rfl⟩

end Operator

namespace Connective

@[simp]
theorem ofValue_spelling (c : Connective) : ofValue (.text c.spelling) = .ok c := by
  cases c <;> rfl

@[simp]
theorem isFalsy_spelling (c : Connective) : (Value.text c.spelling).isFalsy = false := by
  cases c <;> rfl

end Connective

namespace Direction

@[simp]
theorem ofValue_spelling (d : Direction) : ofValue (.text d.spelling) = .ok d := by
  cases d <;> rfl

theorem spelling_ne_empty (d : Direction) : d.spelling ≠ "" := by
  cases d <;> decide

theorem bar_notMem_spelling (d : Direction) : '|' ∉ d.spelling.toList := by
  cases d <;> decide

theorem exists_getLast_spelling (d : Direction) : ∃ c, d.spelling.toList.getLast? = some c ∧ isBlank c = false := by
  cases d <;> exact ⟨_, rfl, rfl⟩

end Direction
end TableQuery
