import TableQuery.Proofs.AlignedStatements
import TableQuery.Proofs.WriteRequests

/-! Which value reaches which column. A statement that writes names its columns in the order of a row and
    binds the values in that order; since nothing in front of a value holds a placeholder of its own, the
    placeholder that belongs to a column is the one that its value is bound to. -/

namespace TableQuery

/-- The `i`-th placeholder of a statement stands right behind a text, and a value is bound to it. -/
def Statement.Assigns (st : Statement) (i : Nat) (behind : String) (v : Value) : Prop :=
  ∃ front back, st.sql = front ++ behind ++ "?" ++ back ∧ Marked (front ++ behind) i ∧ st.params[i]? = some v

/-- A statement that gives the columns of a row their values, in the rows of some restriction. -/
structure Statement.Updates (st : Statement) (d : Dialect) (table : String) (row : Row) : Prop where
  text : ∃ restriction : Predicate, st.sql = "UPDATE " ++ d.quote table ++ " SET " ++
    joinWith ", " (row.map fun (column, _) => d.quote column ++ " = ?") ++ restriction.whereClause
  assigned : ∀ (i : Nat) (column : String) (v : Value), row[i]? = some (column, v) →
    st.Assigns i (d.quote column ++ " = ") v

/-- A statement that inserts a row. The columns are named in the order of the row, and each value is bound at
    the place of its column. -/
structure Statement.Inserts (st : Statement) (d : Dialect) (table : String) (row : Row) : Prop where
  text : ∃ ending, st.sql = "INSERT INTO " ++ d.quote table ++
    " (" ++ joinWith ", " (row.map fun (column, _) => d.quote column) ++
    ") VALUES (" ++ joinWith ", " (row.map fun _ => "?") ++ ")" ++ ending
  assigned : ∀ (i : Nat) (column : String) (v : Value), row[i]? = some (column, v) →
    st.Assigns i (") VALUES (" ++ String.join (List.replicate i "?, ")) v

/-! ### Places in a list -/

section
variable {α : Type} {xs : List α} {x : α} {i : Nat}

/-- A piece of joined text stands behind as many placeholders as pieces, if each piece has one. -/
theorem exists_joinWith_of_getElem? {sep : String} (hsep : Marked sep 0) {f : α → String}
    (hf : ∀ x, Marked (f x) 1) (h : xs[i]? = some x) :
    ∃ front back, joinWith sep (xs.map f) = front ++ f x ++ back ∧ Marked front i := by
  obtain ⟨hi, rfl⟩ := List.getElem?_eq_some_iff.mp h
  have hsplit : xs = xs.take i ++ xs[i] :: xs.drop (i + 1) := by
    rw [List.getElem_cons_drop, List.take_append_drop]
  have hones : ((xs.take i).map fun _ => 1).sum = i := by simp [Nat.le_of_lt hi]
  obtain ⟨front, back, heq, hfront⟩ :=
    Marked.exists_joinWith_append hsep xs[i] (xs.drop (i + 1)) fun y (_ : y ∈ xs.take i) => hf y
  refine ⟨front, back, ?_, by rwa [hones] at hfront⟩
  rw [← heq, ← hsplit]

theorem marked_replicate (i : Nat) : Marked (String.join (List.replicate i "?, ")) i := by
  induction i with
  | zero => exact by decide
  | succ i ih =>
    rw [List.replicate_succ, String.join_cons, Nat.add_comm]
    exact (by decide : Marked "?, " 1).append ih

/-- A placeholder in a list of placeholders stands behind those in front of it. -/
theorem exists_joinWith_marks (h : i < xs.length) :
    ∃ back, joinWith ", " (xs.map fun _ => "?") = String.join (List.replicate i "?, ") ++ "?" ++ back := by
  induction xs generalizing i with
  | nil => simp at h
  | cons y ys ih =>
    cases i with
    | zero =>
      cases ys with
      | nil => exact ⟨"", by simp⟩
      | cons z zs =>
        refine ⟨", " ++ joinWith ", " ((z :: zs).map fun _ => "?"), ?_⟩
        rw [← String.append_assoc]
        rfl
    | succ i =>
      have hi : i < ys.length := by simpa using h
      obtain ⟨back, heq⟩ := ih hi
      refine ⟨back, ?_⟩
      rw [List.map_cons, joinWith_cons (by simpa using List.ne_nil_of_length_pos (Nat.zero_lt_of_lt hi)), heq,
        List.replicate_succ, String.join_cons]
      simp only [← String.append_assoc]
      rfl

end

/-! ### Statements that write -/

namespace Writer
variable {w : Writer} {row : Row} {p : Predicate}

theorem marked_assignment {d : Dialect} (hd : d ≠ .generic) (entry : String × Value) :
    Marked (d.quote entry.1 ++ " = ?") 1 := (marked_quoted hd entry.1).append (by decide : Marked " = ?" 1)

theorem updates_updating (hd : w.selection.dialect ≠ .generic) :
    (w.updating row p).Updates w.selection.dialect w.selection.table.name row := by
  refine ⟨⟨p, rfl⟩, fun i column v h => ?_⟩
  obtain ⟨front, back, heq, hfront⟩ :=
    exists_joinWith_of_getElem? (by decide : Marked ", " 0) (marked_assignment hd) h
  refine ⟨"UPDATE " ++ w.selection.dialect.quote w.selection.table.name ++ " SET " ++ front, back ++ p.whereClause,
    ?_, ?_, ?_⟩
  · show _ ++ joinWith ", " (row.map fun entry => w.selection.dialect.quote entry.1 ++ " = ?") ++ _ = _
    rw [heq]
    simp only [String.append_assoc]
    rfl
  · have := ((((by decide : Marked "UPDATE " 0).append (marked_quoted hd w.selection.table.name)).append
      (by decide : Marked " SET " 0)).append hfront).append
      ((marked_quoted hd column).append (by decide : Marked " = " 0))
    rwa [Nat.zero_add] at this
  · have hi : i < row.length := (List.getElem?_eq_some_iff.mp h).1
    show (row.map Prod.snd ++ p.params)[i]? = some v
    rw [List.getElem?_append_left (by simpa using hi), List.getElem?_map, h]
    rfl

theorem aligned_updating (hd : w.selection.dialect ≠ .generic) (hp : p.Aligned) : (w.updating row p).Aligned := by
  have hset : Marked (joinWith ", " (row.map fun entry => w.selection.dialect.quote entry.1 ++ " = ?"))
      (row.map fun _ => 1).sum := Marked.joinWith (by decide) fun entry _ => marked_assignment hd entry
  have := ((((by decide : Marked "UPDATE " 0).append (marked_quoted hd w.selection.table.name)).append
    (by decide : Marked " SET " 0)).append hset).append hp.whereClause
  unfold Statement.Aligned
  simpa [updating] using this

theorem aligned_counting (hd : w.selection.dialect ≠ .generic) (hp : p.Aligned) : (w.counting p).Aligned := by
  have := ((by decide : Marked "SELECT COUNT(*) FROM " 0).append (marked_quoted hd w.selection.table.name)).append
    hp.whereClause
  rwa [Nat.zero_add] at this

theorem aligned_probing (hd : w.selection.dialect ≠ .generic) (hp : p.Aligned) : (w.probing p).Aligned := by
  have := (((by decide : Marked "SELECT * FROM " 0).append (marked_quoted hd w.selection.table.name)).append
    hp.whereClause).append (by decide : Marked " LIMIT 1" 0)
  rwa [Nat.zero_add] at this

theorem marked_columns {d : Dialect} (hd : d ≠ .generic) (row : Row) :
    Marked (joinWith ", " (row.map fun (column, _) => d.quote column)) 0 := by
  have := marked_quotedNames hd (row.map Prod.fst)
  rwa [List.map_map] at this

/-- The insertion of a row, with what may be written behind it. -/
theorem inserts_insertion (hd : w.selection.dialect ≠ .generic) (row : Row) (ending : String) :
    Statement.Inserts { w.insertion row with sql := (w.insertion row).sql ++ ending }
      w.selection.dialect w.selection.table.name row := by
  refine ⟨⟨ending, rfl⟩, fun i column v h => ?_⟩
  have hi : i < row.length := (List.getElem?_eq_some_iff.mp h).1
  obtain ⟨back, heq⟩ := exists_joinWith_marks hi
  refine ⟨"INSERT INTO " ++ w.selection.dialect.quote w.selection.table.name ++ " (" ++
    joinWith ", " (row.map fun (column, _) => w.selection.dialect.quote column), back ++ ")" ++ ending, ?_, ?_, ?_⟩
  · show _ ++ joinWith ", " (row.map fun _ => "?") ++ _ ++ _ = _
    rw [heq]
    simp only [String.append_assoc]
  · have := ((((by decide : Marked "INSERT INTO " 0).append (marked_quoted hd w.selection.table.name)).append
      (by decide : Marked " (" 0)).append (marked_columns hd row)).append
      ((by decide : Marked ") VALUES (" 0).append (marked_replicate i))
    simpa only [Nat.zero_add] using this
  · show (row.map Prod.snd)[i]? = some v
    rw [List.getElem?_map, h]
    rfl

theorem aligned_insertion (hd : w.selection.dialect ≠ .generic) (row : Row) {ending : String}
    (hending : Marked ending 0) :
    Statement.Aligned { w.insertion row with sql := (w.insertion row).sql ++ ending } := by
  have hmarks : Marked (joinWith ", " (row.map fun _ => "?")) (row.map fun _ => 1).sum :=
    Marked.joinWith (by decide) fun _ _ => by decide
  have := (((((((by decide : Marked "INSERT INTO " 0).append (marked_quoted hd w.selection.table.name)).append
    (by decide : Marked " (" 0)).append (marked_columns hd row)).append (by decide : Marked ") VALUES (" 0)).append
    hmarks).append (by decide : Marked ")" 0)).append hending
  have hlength : (row.map fun _ => 1).sum = (row.map Prod.snd).length := by simp
  rw [Nat.zero_add, hlength] at this
  exact this

end Writer

namespace Selection
/-- Rows are deleted by a stamp in the column for it, or removed. -/
theorem deletion_cases (s : Selection) (now : Instant) (p : Predicate) :
    (∃ column, s.table.softDelete = some column ∧ s.hidesDeleted = true ∧
      s.deletion now p = (Writer.ofSelection s).updating [(column, .instant now)] p) ∨
    s.deletion now p = ⟨"DELETE FROM " ++ s.dialect.quote s.table.name ++ p.whereClause, p.params⟩ := by
  unfold deletion
  dsimp only
  split
  · rename_i column hcolumn
    split
    · rename_i hhides
      refine .inl ⟨column, hcolumn, hhides, ?_⟩
      simp [Writer.updating, Writer.ofSelection, String.append_assoc]
    · exact .inr rfl
  · exact .inr rfl

theorem aligned_deletion {s : Selection} {now : Instant} {p : Predicate} (hd : s.dialect ≠ .generic)
    (hp : p.Aligned) : (s.deletion now p).Aligned := by
  rcases s.deletion_cases now p with ⟨column, -, -, h⟩ | h
  · rw [h]
    exact Writer.aligned_updating hd hp
  · rw [h]
    have := ((by decide : Marked "DELETE FROM " 0).append (marked_quoted hd s.table.name)).append hp.whereClause
    rwa [Nat.zero_add] at this

end Selection

/-! ### What an operation writes -/

/-- The statements by which an operation may change rows. Those that read change nothing. -/
def Operation.MayWrite (w : Writer) : Operation → Statement → Prop
  | create now record, st => ∃ row, (w.insertedRow now record).CanEnd row ∧
    st.Inserts w.selection.dialect w.selection.table.name row
  | update now record, st => ∃ row, w.updatedColumns now record = .ok row ∧
    st.Updates w.selection.dialect w.selection.table.name row
  | updateById now _ record, st => ∃ row, w.updatedColumns now record = .ok row ∧
    st.Updates w.selection.dialect w.selection.table.name row
  | delete now, st | deleteById now _ _, st =>
    (∃ column, w.selection.table.softDelete = some column ∧
      st.Updates w.selection.dialect w.selection.table.name [(column, .instant now)]) ∨
    ∃ restriction : Predicate,
      st.sql = "DELETE FROM " ++ w.selection.dialect.quote w.selection.table.name ++ restriction.whereClause
  | _, _ => False

theorem Selection.deletion_mayWrite {w : Writer} (hd : w.selection.dialect ≠ .generic) {now : Instant}
    {p : Predicate} : Operation.MayWrite w (.delete now) (w.selection.deletion now p) := by
  rcases w.selection.deletion_cases now p with ⟨column, hcolumn, -, h⟩ | h
  · rw [h]
    exact .inl ⟨column, hcolumn, Writer.updates_updating hd⟩
  · rw [h]
    exact .inr ⟨p, rfl⟩

end TableQuery
