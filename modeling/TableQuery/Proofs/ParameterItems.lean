import TableQuery.Proofs.Cutting
import TableQuery.Proofs.Operators
import TableQuery.Query.Parameters

/-! The items of search and order parameters. What a search item says is a relation beside the reader: the field is what
    stands in front of the first colon, and the operator is what stands behind the last one, if that spells one. -/

namespace TableQuery

namespace Query

/-! ### Search items -/

/-- What a search item says: a field, the text to compare with, and an operator. A part that spells no operator belongs
    to the text. -/
inductive ItemSays : String → String → String → Operator → Prop
  | spelled {field text last : String} {op : Operator} : ':' ∉ field.toList → ':' ∉ last.toList →
    canonicalSpelling last = op.spelling → ItemSays (field ++ ":" ++ (text ++ ":" ++ last)) field text op
  | unspelled {field text : String} : ':' ∉ field.toList → (∀ front last op, text = front ++ ":" ++ last →
    ':' ∉ last.toList → canonicalSpelling last ≠ Operator.spelling op) → ItemSays (field ++ ":" ++ text) field text .eq

variable {item field text last : String} {op : Operator}

theorem conditionOfItem_of_single (hfield : ':' ∉ field.toList) (htext : ':' ∉ text.toList) :
    conditionOfItem (field ++ ":" ++ text) =
      Condition.make (.text field) (.text text) Condition.defaultOperator := by
  have hcut : cutText ':' (field ++ ":" ++ text) = [field, text] := by
    rw [show ":" = String.singleton ':' from rfl, cutText_append, cutText_of_notMem hfield, cutText_of_notMem htext,
      List.singleton_append]
  unfold conditionOfItem
  rw [hcut]
  dsimp only
  cases Operator.ofSpelling? (canonicalSpelling ([text].getLast?.getD "")) with
  | none => rfl
  | some op => rfl

/-- With two colons or more the last part decides. -/
theorem conditionOfItem_of_last (hfield : ':' ∉ field.toList) (hlast : ':' ∉ last.toList) :
    conditionOfItem (field ++ ":" ++ (text ++ ":" ++ last)) =
      (Operator.ofSpelling? (canonicalSpelling last)).elim
        (Condition.make (.text field) (.text (text ++ ":" ++ last)) Condition.defaultOperator)
        fun op => Condition.make (.text field) (itemValue op text) (.text op.spelling) := by
  have hcolon : ":" = String.singleton ':' := rfl
  have hback : cutText ':' (text ++ ":" ++ last) = cutText ':' text ++ [last] := by
    rw [hcolon, cutText_append, cutText_of_notMem hlast]
  have hitem : cutText ':' (field ++ ":" ++ (text ++ ":" ++ last)) = field :: (cutText ':' text ++ [last]) := by
    rw [← hback, hcolon, cutText_append, cutText_of_notMem hfield, List.singleton_append]
  have hall : joinWith ":" (cutText ':' text ++ [last]) = text ++ ":" ++ last := by
    rw [← hback]
    exact joinWith_cutText ':' _
  have hfront : joinWith ":" (cutText ':' text) = text := joinWith_cutText ':' text
  obtain ⟨part, parts, hparts⟩ := List.exists_cons_of_ne_nil (cutText_ne_nil ':' text)
  obtain ⟨next, rest, hrest⟩ := List.exists_cons_of_ne_nil
    (List.append_ne_nil_of_right_ne_nil parts (List.cons_ne_nil last []))
  have hcons : cutText ':' text ++ [last] = part :: next :: rest := by
    rw [hparts, List.cons_append, hrest]
  have hlast : (part :: next :: rest).getLast?.getD "" = last := by
    simp [← hcons]
  -- the reader asks for three parts or more, while the text in the middle may have any number of them
  unfold conditionOfItem
  rw [hitem, hcons]
  dsimp only
  rw [hlast, ← hcons, List.dropLast_concat, hfront, hall]
  cases Operator.ofSpelling? (canonicalSpelling last) with
  | none => rfl
  | some op => rfl

theorem conditionOfItem_eq_make (h : ItemSays item field text op) :
    conditionOfItem item = Condition.make (.text field) (itemValue op text) (.text op.spelling) := by
  cases h with
  | spelled hfield hlast hop =>
    rw [conditionOfItem_of_last hfield hlast, Operator.ofSpelling?_eq_some.mpr hop, Option.elim_some]
  | unspelled hfield hno =>
    by_cases hcolon : ':' ∈ text.toList
    · obtain ⟨front, last, rfl, hlast⟩ := exists_split_last hcolon
      have hnone : Operator.ofSpelling? (canonicalSpelling last) = none := by
        refine Option.eq_none_iff_forall_ne_some.mpr fun op hop => ?_
        exact hno front last op rfl hlast (Operator.ofSpelling?_eq_some.mp hop)
      rw [← show ":" = String.singleton ':' from rfl, conditionOfItem_of_last hfield hlast, hnone]
      rfl
    · rw [conditionOfItem_of_single hfield hcolon]
      rfl

/-- An item without a colon is refused, and every other one says something. -/
theorem conditionOfItem_eq_error (h : ':' ∉ item.toList) : conditionOfItem item = .error (.searchItem item) := by
  unfold conditionOfItem
  rw [cutText_of_notMem h]

theorem exists_itemSays (h : ':' ∈ item.toList) : ∃ field text op, ItemSays item field text op := by
  obtain ⟨field, text, rfl, hfield⟩ := exists_split h
  by_cases hop : ∃ front last op, text = front ++ ":" ++ last ∧ ':' ∉ last.toList ∧
      canonicalSpelling last = Operator.spelling op
  · obtain ⟨front, last, op, rfl, hlast, hop⟩ := hop
    exact ⟨field, front, op, .spelled hfield hlast hop⟩
  · exact ⟨field, text, .eq, .unspelled hfield fun front last op ht hlast h => hop ⟨front, last, op, ht, hlast, h⟩⟩

theorem not_itemSays (h : ':' ∉ item.toList) : ¬ ItemSays item field text op := by
  intro hsays
  cases hsays <;> simp at h

/-! ### Order items -/

theorem orderOfItem_eq_map {direction : String} (hfield : ':' ∉ field.toList) (hne : direction ≠ "") :
    orderOfItem (field ++ ":" ++ direction) =
      (Direction.ofValue (.text direction)).map fun d => ⟨.text field, d⟩ := by
  have hsplit : splitFirst ':' (field ++ ":" ++ direction) = (field, some direction) :=
    splitFirst_append hfield direction
  have hempty : ¬ direction.isEmpty = true := by
    simpa using hne
  unfold orderOfItem
  rw [hsplit]
  dsimp only [Option.getD_some]
  rw [if_neg hempty]
  rfl

/-- Without a direction an order is ascending. -/
theorem orderOfItem_eq_asc (h : ':' ∉ item.toList ∨ ∃ field, item = field ++ ":" ∧ ':' ∉ field.toList) :
    ∃ field, orderOfItem item = .ok ⟨.text field, .asc⟩ := by
  rcases h with h | ⟨field, rfl, h⟩
  · have hsplit : splitFirst ':' item = (item, none) := splitFirst_of_notMem h
    refine ⟨item, ?_⟩
    unfold orderOfItem
    rw [hsplit]
    rfl
  · have hsplit : splitFirst ':' (field ++ ":" ++ "") = (field, some "") := splitFirst_append h ""
    rw [String.append_empty] at hsplit
    refine ⟨field, ?_⟩
    unfold orderOfItem
    rw [hsplit]
    rfl

end Query
end TableQuery
