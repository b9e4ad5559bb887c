import TableQuery.Proofs.Substitution

/-! Formats with percent signs, as the driver for MySQL reads statement text. What a statement is rendered to is such a
    format. It has one place for each parameter, no other directives but doubled signs, and filled with arguments it is
    the statement with the arguments in place of its placeholders. -/

namespace TableQuery

/-- A part of a format: a character for itself, a doubled percent sign, which stands for a single one, or the place of
    an argument. -/
inductive FormatPart
  | char (c : Char)
  | percent
  | argument
  deriving DecidableEq

/-- The parts of a format, if each percent sign that is met is followed by another one or by an `s`. -/
def formatParts? : List Char → Option (List FormatPart)
  | [] => some []
  | '%' :: '%' :: cs => (formatParts? cs).map (.percent :: ·)
  | '%' :: 's' :: cs => (formatParts? cs).map (.argument :: ·)
  | c :: cs => if c = '%' then none else (formatParts? cs).map (.char c :: ·)

/-- A format filled with arguments, which have to be as many as it has places. -/
def formatted? : List FormatPart → List String → Option (List Char)
  | [], [] => some []
  | .char c :: parts, args => (formatted? parts args).map (c :: ·)
  | .percent :: parts, args => (formatted? parts args).map ('%' :: ·)
  | .argument :: parts, arg :: args => (formatted? parts args).map (arg.toList ++ ·)
  | _, _ => none

namespace FormatPart

/-- What a character of literal text is read as, once percent signs are doubled. -/
def ofChar (c : Char) : FormatPart := if c = '%' then percent else char c

/-- So many places with commas between them. -/
def places : Nat → List FormatPart
  | 0 => []
  | 1 => [argument]
  | n + 2 => argument :: char ',' :: char ' ' :: places (n + 1)

/-- Groups of places with a piece of literal text after each of them. -/
def inTurn : List Nat → List (List Char) → List FormatPart
  | n :: ns, piece :: pieces => places n ++ (piece.map ofChar ++ inTurn ns pieces)
  | _, _ => []

end FormatPart

/-- Text that is read as the given parts, whatever follows it. -/
def ReadsAs (cs : List Char) (parts : List FormatPart) : Prop :=
  ∀ rest, formatParts? (cs ++ rest) = (formatParts? rest).map (parts ++ ·)

/-- Parts that become the given text with their arguments, whatever follows them. -/
def Fills (parts : List FormatPart) (args : List String) (cs : List Char) : Prop :=
  ∀ rest more, formatted? (parts ++ rest) (args ++ more) = (formatted? rest more).map (cs ++ ·)

/-! ### Reading -/

section
variable {cs ds : List Char} {parts parts' : List FormatPart}

theorem formatParts?_cons_of_ne {c : Char} (hc : c ≠ '%') (cs : List Char) :
    formatParts? (c :: cs) = (formatParts? cs).map (.char c :: ·) := by
  rw [formatParts?, if_neg hc]
  · exact fun _ h _ => hc h
  · exact fun _ h _ => hc h

theorem readsAs_nil : ReadsAs [] [] := fun rest => by simp

theorem ReadsAs.append (hcs : ReadsAs cs parts) (hds : ReadsAs ds parts') : ReadsAs (cs ++ ds) (parts ++ parts') := by
  intro rest
  rw [List.append_assoc, hcs, hds, Option.map_map]
  simp [Function.comp_def]

theorem ReadsAs.eq_some (h : ReadsAs cs parts) : formatParts? cs = some parts := by
  simpa [formatParts?] using h []

theorem readsAs_mark : ReadsAs "%s".toList [.argument] := fun _ => rfl

theorem readsAs_separator : ReadsAs ", ".toList [.char ',', .char ' '] := by
  intro rest
  show formatParts? (',' :: ' ' :: rest) = _
  rw [formatParts?_cons_of_ne (by decide), formatParts?_cons_of_ne (by decide), Option.map_map]
  rfl

/-- Doubled percent signs are read as single ones, and other characters as themselves. -/
theorem readsAs_literal (cs : List Char) :
    ReadsAs (Dialect.mysql.literalText (String.ofList cs)).toList (cs.map .ofChar) := by
  have hchars : (Dialect.mysql.literalText (String.ofList cs)).toList = replaceChar '%' ['%', '%'] cs := by
    simp [Dialect.literalText, replaceCharText]
  rw [hchars]
  induction cs with
  | nil => exact readsAs_nil
  | cons c cs ih =>
    have hfirst : ReadsAs (if c = '%' then ['%', '%'] else [c]) [.ofChar c] := by
      by_cases hc : c = '%'
      · rw [if_pos hc, FormatPart.ofChar, if_pos hc]
        exact fun _ => rfl
      · rw [if_neg hc, FormatPart.ofChar, if_neg hc]
        exact formatParts?_cons_of_ne hc
    exact hfirst.append (ih (by simp [Dialect.literalText, replaceCharText]))

theorem readsAs_places : ∀ n : Nat, ReadsAs (joinWith ", " (List.replicate n "%s")).toList (FormatPart.places n)
  | 0 => readsAs_nil
  | 1 => readsAs_mark
  | n + 2 => by
    have hrest := (readsAs_mark.append readsAs_separator).append (readsAs_places (n + 1))
    rwa [← String.toList_append, ← String.toList_append] at hrest

theorem readsAs_inTurn : ∀ (ns : List Nat) (pieces : List (List Char)),
    ReadsAs (inTurn (ns.map fun n => joinWith ", " (List.replicate n "%s"))
      (pieces.map fun piece => Dialect.mysql.literalText (String.ofList piece))).toList (FormatPart.inTurn ns pieces)
  | [], _ => readsAs_nil
  | _ :: _, [] => readsAs_nil
  | n :: ns, piece :: pieces => by
    rw [List.map_cons, List.map_cons, toList_inTurn_cons]
    exact (readsAs_places n).append ((readsAs_literal piece).append (readsAs_inTurn ns pieces))

end

/-! ### Filling -/

section
variable {parts parts' : List FormatPart} {args args' : List String} {cs ds : List Char}

theorem fills_nil : Fills [] [] [] := fun rest more => by simp

theorem Fills.append (hcs : Fills parts args cs) (hds : Fills parts' args' ds) :
    Fills (parts ++ parts') (args ++ args') (cs ++ ds) := by
  intro rest more
  rw [List.append_assoc, List.append_assoc, hcs, hds, Option.map_map]
  simp [Function.comp_def]

theorem Fills.eq_some (h : Fills parts args cs) : formatted? parts args = some cs := by
  simpa [formatted?] using h [] []

theorem fills_argument (arg : String) : Fills [.argument] [arg] arg.toList := fun _ _ => rfl

theorem fills_literal (cs : List Char) : Fills (cs.map .ofChar) [] cs := by
  induction cs with
  | nil => exact fills_nil
  | cons c cs ih =>
    have hfirst : Fills [.ofChar c] [] [c] := by
      unfold FormatPart.ofChar
      split
      · rename_i hc
        exact hc ▸ fun _ _ => rfl
      · exact fun _ _ => rfl
    exact hfirst.append ih

theorem fills_places : ∀ args : List String, Fills (FormatPart.places args.length) args (joinWith ", " args).toList
  | [] => fills_nil
  | [arg] => fills_argument arg
  | arg :: arg' :: args => by
    have hseparator : Fills [.char ',', .char ' '] [] ", ".toList := fun rest more => by
      show ((formatted? rest more).map (' ' :: ·)).map (',' :: ·) = _
      rw [Option.map_map]
      rfl
    have hrest := ((fills_argument arg).append hseparator).append (fills_places (arg' :: args))
    rwa [← String.toList_append, ← String.toList_append] at hrest

theorem fills_inTurn : ∀ (groups : List (List String)) (pieces : List (List Char)), groups.length = pieces.length →
    Fills (FormatPart.inTurn (groups.map List.length) pieces) groups.flatten
      (inTurn (groups.map (joinWith ", ")) (pieces.map String.ofList)).toList
  | [], [], _ => fills_nil
  | group :: groups, piece :: pieces, h => by
    rw [List.map_cons, List.map_cons, List.map_cons, List.flatten_cons, toList_inTurn_cons, String.toList_ofList]
    exact (fills_places group).append ((fills_literal piece).append (fills_inTurn groups pieces (Nat.succ.inj h)))

theorem count_literal (cs : List Char) : (cs.map FormatPart.ofChar).count .argument = 0 := by
  rw [List.count_eq_zero, List.mem_map]
  rintro ⟨c, -, hc⟩
  unfold FormatPart.ofChar at hc
  split at hc <;> cases hc

theorem count_places : ∀ n : Nat, (FormatPart.places n).count .argument = n
  | 0 => rfl
  | 1 => rfl
  | n + 2 => by simp [FormatPart.places, count_places (n + 1)]

theorem count_inTurn : ∀ (ns : List Nat) (pieces : List (List Char)), ns.length = pieces.length →
    (FormatPart.inTurn ns pieces).count .argument = ns.sum
  | [], [], _ => rfl
  | n :: ns, piece :: pieces, h => by
    rw [FormatPart.inTurn, List.count_append, List.count_append, count_literal, count_places,
      count_inTurn ns pieces (Nat.succ.inj h), List.sum_cons, Nat.zero_add]

end

/-! ### Rendered statements -/

theorem exists_takesPlaces {α : Type} : ∀ {params : List Value} {xs : List α},
    xs.length = (params.flatMap Value.bound).length → ∃ groups, TakesPlaces params xs groups
  | [], xs, h => ⟨[], (List.eq_nil_of_length_eq_zero h).symm, rfl⟩
  | v :: vs, xs, h => by
    rw [List.flatMap_cons, List.length_append] at h
    obtain ⟨groups, hgroups⟩ : ∃ groups, TakesPlaces vs (xs.drop v.bound.length) groups :=
      exists_takesPlaces (by simp [h])
    refine ⟨xs.take v.bound.length :: groups, ?_, ?_⟩
    · rw [List.flatten_cons, hgroups.flatten, List.take_append_drop]
    · rw [List.map_cons, List.map_cons, hgroups.sizes, List.length_take_of_le (by omega)]

namespace Dialect

theorem groupedMarks_mysql {first : Nat} {params : List Value} :
    mysql.groupedMarks first params = (params.map fun v => v.bound.length).map fun n => List.replicate n "%s" := by
  induction params generalizing first with
  | nil => rfl
  | cons v vs ih => rw [groupedMarks, ih, marksFrom]; simp [placeholder, List.map_const']

/-- Formatting undoes rendering. What a statement is rendered to for MySQL is read as a format in which percent signs start
    nothing but doubled signs and places, of which there is one for each parameter. Whatever arguments there are for the
    places, filled with them the format is the statement with arguments in place of its placeholders: as many for each as
    it binds values, and all other characters as they were. -/
theorem formatted_render (sql : String) (params : List Value) (text : String) (flat : List Value)
    (h : mysql.render sql params = .ok (text, flat)) :
    ∃ piece pieces parts, FallsInto sql.toList (piece :: pieces) ∧ formatParts? text.toList = some parts ∧
      parts.count .argument = flat.length ∧
      ∀ args : List String, args.length = flat.length → ∃ groups, TakesPlaces params args groups ∧
        formatted? parts args =
          some (String.ofList piece ++ inTurn (groups.map (joinWith ", ")) (pieces.map String.ofList)).toList := by
  obtain ⟨piece, pieces, hpieces⟩ := exists_fallsInto sql.toList
  rw [render_of_pieces hpieces.placeholderPieces_eq] at h
  obtain ⟨⟨tail, flat⟩, hfill, h⟩ := bind_eq_ok.mp h
  cases h
  obtain ⟨hlength, hflat, rfl⟩ := fillAll_eq_ok.mp hfill
  have hcount : (params.map fun v => v.bound.length).sum = flat.length := by
    rw [← hflat.length_eq, List.length_flatMap]
  have hsizes : (params.map fun v => v.bound.length).length = pieces.length := by
    rw [List.length_map, hlength]
  refine ⟨piece, pieces, piece.map .ofChar ++ FormatPart.inTurn (params.map fun v => v.bound.length) pieces, hpieces,
    ?_, ?_, fun args hargs => ?_⟩
  · rw [groupedMarks_mysql, List.map_map, String.toList_append]
    exact ((readsAs_literal piece).append (readsAs_inTurn _ pieces)).eq_some
  · rw [List.count_append, count_literal, count_inTurn _ _ hsizes, hcount, Nat.zero_add]
  · obtain ⟨groups, hgroups⟩ := exists_takesPlaces (hargs.trans hflat.length_eq.symm)
    have hgrouped : groups.length = pieces.length := by
      rw [← hsizes, ← hgroups.sizes, List.length_map]
    refine ⟨groups, hgroups, ?_⟩
    rw [← hgroups.sizes, ← hgroups.flatten, String.toList_append, String.toList_ofList]
    exact ((fills_literal piece).append (fills_inTurn groups pieces hgrouped)).eq_some

/-- Percent signs in front of a placeholder and behind it, inside of quotes, and at the end, in front of an `s`. -/
theorem formatted_render_signs :
    let sql := "a LIKE '%?' AND b = %?% AND c IN (?) AND d = %s"
    let params : List Value := [.int 1, .members [.int 2, .int 3]]
    let text := "a LIKE '%%?' AND b = %%%s%% AND c IN (%s, %s) AND d = %%s"
    mysql.render sql params = .ok (text, [.int 1, .int 2, .int 3]) ∧
    ∃ piece pieces parts, FallsInto sql.toList (piece :: pieces) ∧ formatParts? text.toList = some parts ∧
      (∃ groups, TakesPlaces params ["x", "y%s", "z"] groups ∧ formatted? parts ["x", "y%s", "z"] =
        some (String.ofList piece ++ inTurn (groups.map (joinWith ", ")) (pieces.map String.ofList)).toList) ∧
      formatted? parts ["x", "y%s", "z"] = some "a LIKE '%?' AND b = %x% AND c IN (y%s, z) AND d = %s".toList := by
  intro sql params text
  have hrender : mysql.render sql params = .ok (text, [.int 1, .int 2, .int 3]) := by
    dsimp only [sql, params, text]
    rfl
  obtain ⟨piece, pieces, parts, hpieces, hparts, -, hformat⟩ := formatted_render sql params text _ hrender
  refine ⟨hrender, piece, pieces, parts, hpieces, hparts, hformat ["x", "y%s", "z"] rfl, ?_⟩
  have hread : (formatParts? text.toList).bind (formatted? · ["x", "y%s", "z"]) =
      some "a LIKE '%?' AND b = %x% AND c IN (y%s, z) AND d = %s".toList := by decide +kernel
  rwa [hparts] at hread

end Dialect
end TableQuery
