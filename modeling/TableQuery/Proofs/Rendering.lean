import TableQuery.Proofs.Marks
import TableQuery.Proofs.Outcomes

/-! Rendering statements whose placeholders and parameters agree in number: it can only fail because a
    parameter has no form that the driver takes. -/

namespace TableQuery

/-- The failures that a statement has a placeholder without a parameter, or the other way around. -/
def Failure.isMismatch : Failure → Bool
  | .misuse (.missingParameter _) => true
  | .misuse (.spareParameters ..) => true
  | _ => false

/-- A failure of another cause. -/
def NoMismatch (f : Failure) : Prop := f.isMismatch = false

/-! ### Values -/

namespace Value

mutual

theorem failsOnly_placedForm : ∀ (place : Shape) (v : Value), FailsOnly NoMismatch (placedForm place v)
  | _, .null | _, .bool _ | _, .int _ | _, .double _ | _, .decimal _ | _, .text _ | _, .date _ | _, .clock _
  | _, .instant _ | _, .uuid _ => trivial
  | _, .bytes bs => by
    unfold placedForm
    split
    · exact trivial
    · exact rfl
  | _, .list xs | _, .tuple xs | _, .set _ xs | _, .members xs => (failsOnly_placedItems _ xs).map
  | _, .dict es | _, .record _ es => (failsOnly_placedEntries _ es).map
  | _, .enum _ _ v => failsOnly_placedForm .any v
  | _, .entity layout es => (failsOnly_placedFields layout es).map
  | _, .bag _ | _, .model _ => rfl

theorem failsOnly_placedItems : ∀ (place : Shape) (xs : List Value), FailsOnly NoMismatch (placedItems place xs)
  | _, [] => trivial
  | place, x :: xs => (failsOnly_placedForm place x).bind fun _ _ =>
    (failsOnly_placedItems place xs).bind fun _ _ => trivial

theorem failsOnly_placedEntries : ∀ (place : Shape) (es : List (String × Value)),
    FailsOnly NoMismatch (placedEntries place es)
  | _, [] => trivial
  | place, (_, x) :: es => (failsOnly_placedForm place x).bind fun _ _ =>
    (failsOnly_placedEntries place es).bind fun _ _ => trivial

theorem failsOnly_placedFields : ∀ (layout : Layout) (es : List (String × Value)),
    FailsOnly NoMismatch (placedFields layout es)
  | _, [] => trivial
  | layout, (_, x) :: es => (failsOnly_placedForm _ x).bind fun _ _ =>
    (failsOnly_placedFields layout es).bind fun _ _ => trivial

end

mutual

theorem failsOnly_storable : ∀ v : Value, FailsOnly NoMismatch (storable v)
  | .null | .bool _ | .int _ | .double _ | .decimal _ | .text _ | .bytes _ | .date _ | .clock _
  | .instant _ | .uuid _ | .bag _ => trivial
  | .list xs | .tuple xs | .set _ xs | .members xs => (failsOnly_storableItems xs).map
  | .dict es | .record _ es => (failsOnly_storableEntries es).map
  | .enum _ _ v => failsOnly_storable v
  | .entity layout es => failsOnly_placedForm .any (.entity layout es)
  | .model _ => rfl

theorem failsOnly_storableItems : ∀ xs : List Value, FailsOnly NoMismatch (storableItems xs)
  | [] => trivial
  | x :: xs => (failsOnly_storable x).bind fun _ _ => (failsOnly_storableItems xs).bind fun _ _ => trivial

theorem failsOnly_storableEntries : ∀ es : List (String × Value), FailsOnly NoMismatch (storableEntries es)
  | [] => trivial
  | (_, x) :: es => (failsOnly_storable x).bind fun _ _ =>
    (failsOnly_storableEntries es).bind fun _ _ => trivial

end

end Value

/-! ### Rendering -/

namespace Dialect
variable {d : Dialect}

theorem failsOnly_jsonText (v : Value) : FailsOnly NoMismatch (jsonText v) := by
  refine (Value.failsOnly_storable v).bind fun _ _ => ?_
  split
  · exact trivial
  · rename_i e _
    cases e <;> exact rfl

theorem failsOnly_adaptCommon (v : Value) : FailsOnly NoMismatch (adaptCommon v) := by
  unfold adaptCommon
  -- A named constant is taken as what it stands for; the kinds of values are the same then.
  split
  all_goals
    dsimp only
    split <;> try split
    all_goals first | exact failsOnly_jsonText _ | exact trivial

theorem failsOnly_adapt (v : Value) : FailsOnly NoMismatch (d.adapt v) := by
  refine (failsOnly_adaptCommon v).bind fun w _ => ?_
  split <;> first | exact trivial | exact rfl

theorem failsOnly_fill {next : Nat} (v : Value) : FailsOnly NoMismatch (d.fill next v) := by
  unfold fill
  split
  · exact (FailsOnly.mapM fun w _ => failsOnly_adapt w).bind fun _ _ => trivial
  · exact (failsOnly_adapt _).bind fun _ _ => trivial

theorem failsOnly_fillAll : ∀ {taken next : Nat} {pieces : List (List Char)} {params : List Value},
    pieces.length = params.length → FailsOnly NoMismatch (d.fillAll taken next pieces params)
  | _, _, [], [], _ => trivial
  | _, _, _ :: _, v :: _, h => (failsOnly_fill v).bind fun _ _ =>
    (failsOnly_fillAll (Nat.succ.inj h)).bind fun _ _ => trivial

/-- A statement with one parameter for each placeholder is not refused for their number. -/
theorem failsOnly_render {sql : String} {params : List Value} (h : Marked sql params.length) :
    FailsOnly NoMismatch (d.render sql params) := by
  have hlen : (placeholderPieces none sql.toList).length = countOutside '?' none sql.toList + 1 :=
    length_placeholderPieces
  rw [h.2] at hlen
  unfold render
  split
  · exact trivial
  · rename_i first pieces heq
    rw [heq] at hlen
    exact (failsOnly_fillAll (Nat.succ.inj hlen)).bind fun _ _ => trivial

end Dialect
end TableQuery
