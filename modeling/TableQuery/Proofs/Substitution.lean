import TableQuery.Proofs.LikeStatements
import TableQuery.Proofs.Marks

/-! Rendering as substitution. Statement text is literal text with placeholders in between, where quoted spans belong to
    the literal text; it falls into its pieces in one way only. The driver receives the pieces with marks in between,
    which are numbered through, and the adapted values of the parameters in the order of their marks. -/

namespace TableQuery

/-- Literal text: question marks stand inside of quotes only, and each quote is closed. -/
inductive Literal : List Char → Prop
  | nil : Literal []
  | char {c : Char} {cs : List Char} : isQuoteMark c = false → c ≠ '?' → Literal cs → Literal (c :: cs)
  | quoted {q : Char} {body cs : List Char} : isQuoteMark q = true → q ∉ body → Literal cs →
    Literal (q :: (body ++ q :: cs))

/-- Literal text at the end of a statement, where a quote may be left open. -/
inductive LastLiteral : List Char → Prop
  | closed {cs : List Char} : Literal cs → LastLiteral cs
  | opened {q : Char} {cs body : List Char} : Literal cs → isQuoteMark q = true → q ∉ body →
    LastLiteral (cs ++ q :: body)

/-- Text that consists of literal pieces with a placeholder between neighbours. -/
inductive FallsInto : List Char → List (List Char) → Prop
  | last {piece : List Char} : LastLiteral piece → FallsInto piece [piece]
  | next {piece cs : List Char} {pieces : List (List Char)} : Literal piece → FallsInto cs pieces →
    FallsInto (piece ++ '?' :: cs) (piece :: pieces)

/-- Marks with a piece after each of them. -/
def inTurn : List String → List String → String
  | mark :: marks, piece :: pieces => mark ++ piece ++ inTurn marks pieces
  | _, _ => ""

theorem toList_inTurn_cons (mark piece : String) (marks pieces : List String) :
    (inTurn (mark :: marks) (piece :: pieces)).toList =
      mark.toList ++ (piece.toList ++ (inTurn marks pieces).toList) := by
  simp [inTurn]

/-- What takes the places of the parameters, parameter by parameter: one for each value that is bound. -/
structure TakesPlaces {α : Type} (params : List Value) (xs : List α) (groups : List (List α)) : Prop where
  flatten : groups.flatten = xs
  sizes : groups.map List.length = params.map fun v => v.bound.length

/-- The failure of a statement whose placeholders and parameters differ in number. -/
def mismatch (placeholders parameters : Nat) : Failure :=
  .misuse (if parameters < placeholders then .missingParameter parameters
    else .spareParameters placeholders parameters)

/-! ### Pieces of statement text -/

section
variable {cs ds piece : List Char} {pieces : List (List Char)}

theorem Literal.append (hcs : Literal cs) (hds : Literal ds) : Literal (cs ++ ds) := by
  induction hcs with
  | nil => exact hds
  | char hquote hmark _ ih => exact .char hquote hmark ih
  | quoted hquote hbody _ ih =>
    rw [List.cons_append, List.append_assoc, List.cons_append]
    exact .quoted hquote hbody ih

theorem FallsInto.prepend (hcs : Literal cs) (h : FallsInto ds (piece :: pieces)) :
    FallsInto (cs ++ ds) ((cs ++ piece) :: pieces) := by
  cases h with
  | last hlast =>
    cases hlast with
    | closed hds => exact .last (.closed (hcs.append hds))
    | opened hfront hquote hbody =>
      rw [← List.append_assoc]
      exact .last (.opened (hcs.append hfront) hquote hbody)
  | next hpiece hrest =>
    rw [← List.append_assoc]
    exact .next (hcs.append hpiece) hrest

/-- Any text falls into pieces: a quote that is closed ends with its span, and one that is not takes the rest. -/
theorem exists_fallsInto : ∀ cs : List Char, ∃ piece pieces, FallsInto cs (piece :: pieces)
  | [] => ⟨[], [], .last (.closed .nil)⟩
  | c :: cs => by
    by_cases hquote : isQuoteMark c = true
    · by_cases hclosed : c ∈ cs
      · obtain ⟨body, rest, rfl, hbody⟩ := List.eq_append_cons_of_mem hclosed
        obtain ⟨piece, pieces, hrest⟩ := exists_fallsInto rest
        have hspan : Literal (c :: (body ++ [c])) := .quoted hquote hbody .nil
        refine ⟨c :: (body ++ c :: piece), pieces, ?_⟩
        simpa using hrest.prepend hspan
      · have hopened : LastLiteral ([] ++ c :: cs) := .opened .nil hquote hclosed
        exact ⟨c :: cs, [], .last hopened⟩
    · obtain ⟨piece, pieces, hrest⟩ := exists_fallsInto cs
      by_cases hmark : c = '?'
      · exact ⟨[], piece :: pieces, hmark ▸ .next .nil hrest⟩
      · exact ⟨c :: piece, pieces, hrest.prepend (.char (Bool.eq_false_iff.mpr hquote) hmark .nil)⟩
termination_by cs => cs.length

theorem placeholderPieces_inside {q : Char} {body : List Char} (hbody : q ∉ body) (cs : List Char) :
    placeholderPieces (some q) (body ++ q :: cs) = (body ++ [q]).foldr prependChar (placeholderPieces none cs) := by
  induction body with
  | nil => simp [placeholderPieces_cons, quoteAfter]
  | cons c body ih =>
    obtain ⟨hc, hbody⟩ := not_or.mp (mt List.mem_cons.mpr hbody)
    rw [List.cons_append, placeholderPieces_cons, if_neg (fun h => Option.some_ne_none q h.1), quoteAfter, if_neg (Ne.symm hc),
      ih hbody]
    rfl

theorem placeholderPieces_open {q : Char} {body : List Char} (hbody : q ∉ body) :
    placeholderPieces (some q) body = [body] := by
  induction body with
  | nil => rfl
  | cons c body ih =>
    obtain ⟨hc, hbody⟩ := not_or.mp (mt List.mem_cons.mpr hbody)
    rw [placeholderPieces_cons, if_neg (fun h => Option.some_ne_none q h.1), quoteAfter, if_neg (Ne.symm hc), ih hbody]
    rfl

theorem placeholderPieces_literal (h : Literal cs) (ds : List Char) :
    placeholderPieces none (cs ++ ds) = cs.foldr prependChar (placeholderPieces none ds) := by
  induction h with
  | nil => rfl
  | @char c cs hquote hmark _ ih =>
    rw [List.cons_append, placeholderPieces_cons, if_neg (fun h => hmark h.2), quoteAfter, hquote,
      if_neg Bool.false_ne_true, ih]
    rfl
  | @quoted q body cs hquote hbody _ ih =>
    have hmark : q ≠ '?' := fun h => by simp [h, isQuoteMark_question] at hquote
    rw [List.cons_append, List.append_assoc, List.cons_append, placeholderPieces_cons, if_neg (fun h => hmark h.2),
      quoteAfter, if_pos hquote, placeholderPieces_inside hbody, ih]
    simp

theorem foldr_prependChar : cs.foldr prependChar (piece :: pieces) = (cs ++ piece) :: pieces := by
  induction cs with
  | nil => rfl
  | cons c cs ih => rw [List.foldr_cons, ih, prependChar, List.cons_append]

theorem FallsInto.placeholderPieces_eq (h : FallsInto cs pieces) : placeholderPieces none cs = pieces := by
  induction h with
  | last hlast =>
    cases hlast with
    | closed h => simpa [placeholderPieces, foldr_prependChar] using placeholderPieces_literal h []
    | opened h hquote hbody =>
      rename_i q _ _
      have hmark : q ≠ '?' := fun h => by simp [h, isQuoteMark_question] at hquote
      rw [placeholderPieces_literal h, placeholderPieces_cons, if_neg (fun h => hmark h.2), quoteAfter, if_pos hquote,
        placeholderPieces_open hbody]
      exact foldr_prependChar
  | next hpiece _ ih =>
    rw [placeholderPieces_literal hpiece, placeholderPieces_cons, if_pos ⟨rfl, rfl⟩, ih, foldr_prependChar,
      List.append_nil]

/-- Text falls into pieces in one way, and these are the pieces that are taken. -/
theorem fallsInto_iff : FallsInto cs pieces ↔ placeholderPieces none cs = pieces := by
  refine ⟨FallsInto.placeholderPieces_eq, ?_⟩
  rintro rfl
  obtain ⟨piece, pieces, h⟩ := exists_fallsInto cs
  rwa [h.placeholderPieces_eq]

end

theorem name_mismatch (placeholders parameters : Nat) : (mismatch placeholders parameters).name = "ValueError" := by
  unfold mismatch
  split <;> rfl

namespace Dialect
variable {d : Dialect}

/-- The placeholders of so many values, from the first on. -/
def placeholders (d : Dialect) (count : Nat) : List String :=
  match d with
  | postgresql => (List.range' 1 count).map fun j => "$" ++ natText j
  | mysql => List.replicate count "%s"
  | generic | sqlite => List.replicate count "?"

/-- The placeholders of a number of values, the first of which has a given number. -/
def marksFrom (d : Dialect) (first count : Nat) : List String := (List.range' first count).map fun j : Nat => d.placeholder j

/-- The placeholders that stand for parameters, parameter by parameter. -/
def groupedMarks (d : Dialect) (first : Nat) : List Value → List (List String)
  | [] => []
  | v :: vs => d.marksFrom first v.bound.length :: d.groupedMarks (first + v.bound.length) vs

/-- The values that a driver takes for values. -/
def Adapts (d : Dialect) (xs flat : List Value) : Prop := List.Forall₂ (fun x y => d.adapt x = .ok y) xs flat

/-! ### Marks -/

theorem placeholders_eq (count : Nat) : d.placeholders count = d.marksFrom 1 count := by
  cases d <;> simp [placeholders, marksFrom, placeholder, intText, List.map_const']

theorem flatten_groupedMarks {first : Nat} {params : List Value} :
    (d.groupedMarks first params).flatten = d.marksFrom first (params.flatMap Value.bound).length := by
  induction params generalizing first with
  | nil => rfl
  | cons v vs ih =>
    rw [groupedMarks, List.flatten_cons, ih, List.flatMap_cons, List.length_append, marksFrom, marksFrom, marksFrom,
      ← List.map_append, List.range'_append_1]

theorem takesPlaces_groupedMarks {params : List Value} {count : Nat} (h : (params.flatMap Value.bound).length = count) :
    TakesPlaces params (d.placeholders count) (d.groupedMarks 1 params) := by
  refine ⟨by rw [flatten_groupedMarks, h, placeholders_eq], ?_⟩
  generalize 1 = first
  induction params generalizing first count with
  | nil => rfl
  | cons v vs ih => rw [groupedMarks, List.map_cons, List.map_cons, ih rfl, marksFrom, List.length_map, List.length_range']

theorem memberMarks_eq {first : Nat} {xs : List Value} : d.memberMarks first xs = d.marksFrom first xs.length := by
  induction xs generalizing first with
  | nil => rfl
  | cons x xs ih => rw [memberMarks, ih]; rfl

/-! ### Filling placeholders -/

theorem exists_adapts : ∀ {xs : List Value}, (∀ x ∈ xs, ∃ y, d.adapt x = .ok y) → ∃ flat, d.Adapts xs flat
  | [], _ => ⟨[], .nil⟩
  | x :: xs, h => by
    obtain ⟨⟨y, hy⟩, hxs⟩ := List.forall_mem_cons.mp h
    obtain ⟨flat, hflat⟩ := exists_adapts hxs
    exact ⟨y :: flat, .cons hy hflat⟩

section
variable {first taken : Nat} {v : Value} {params flat : List Value} {pieces : List (List Char)} {text mark : String}

theorem fill_eq_ok : d.fill first v = .ok (mark, flat) ↔
    d.Adapts v.bound flat ∧ mark = joinWith ", " (d.marksFrom first v.bound.length) := by
  cases hplaces : v.places with
  | none =>
    obtain ⟨hbound, hfill⟩ := fill_of_places_eq_none (d := d) first hplaces
    rw [hbound, hfill, bind_eq_ok]
    constructor
    · rintro ⟨y, hy, h⟩
      cases h
      exact ⟨.cons hy .nil, rfl⟩
    · rintro ⟨hflat, rfl⟩
      cases hflat with
      | cons hy hnil =>
        cases hnil
        exact ⟨_, hy, rfl⟩
  | some n =>
    obtain ⟨xs, rfl, -⟩ := eq_members_of_places hplaces
    have hfill : d.fill first (.members xs) =
        (xs.mapM d.adapt >>= fun flat => .ok (joinWith ", " (d.memberMarks first xs), flat)) := rfl
    rw [hfill, bind_eq_ok, memberMarks_eq]
    constructor
    · rintro ⟨ys, hys, h⟩
      cases h
      exact ⟨mapM_eq_ok.mp hys, rfl⟩
    · rintro ⟨hflat, rfl⟩
      exact ⟨flat, mapM_eq_ok.mpr hflat, rfl⟩

/-- Placeholders can be filled if there are as many parameters and the driver takes their values; marks and pieces
    follow each other then. -/
theorem fillAll_eq_ok : ∀ {pieces : List (List Char)} {params flat : List Value} {taken first : Nat} {text : String},
    d.fillAll taken first pieces params = .ok (text, flat) ↔
      pieces.length = params.length ∧ d.Adapts (params.flatMap Value.bound) flat ∧
        text = inTurn ((d.groupedMarks first params).map (joinWith ", "))
          (pieces.map fun piece => d.literalText (String.ofList piece))
  | [], [], flat, taken, first, text => by
    constructor
    · intro h
      cases h
      exact ⟨rfl, .nil, rfl⟩
    · rintro ⟨-, hflat, rfl⟩
      cases hflat
      rfl
  | [], _ :: _, _, _, _, _ => ⟨(fun h => nomatch h), fun h => absurd h.1 (by simp)⟩
  | _ :: _, [], _, _, _, _ => ⟨(fun h => nomatch h), fun h => absurd h.1 (by simp)⟩
  | piece :: pieces, v :: params, flat, taken, first, text => by
    rw [fillAll, bind_eq_ok]
    constructor
    · rintro ⟨⟨mark, here⟩, hfill, h⟩
      obtain ⟨⟨later, rest⟩, hall, h⟩ := bind_eq_ok.mp h
      cases h
      obtain ⟨hhere, rfl⟩ := fill_eq_ok.mp hfill
      obtain ⟨hlength, hrest, rfl⟩ := fillAll_eq_ok.mp hall
      refine ⟨congrArg Nat.succ hlength, List.rel_append hhere hrest, ?_⟩
      rw [groupedMarks, ← hhere.length_eq]
      rfl
    · rintro ⟨hlength, hflat, rfl⟩
      obtain ⟨here, rest, rfl, hhere, hrest⟩ := forall₂_append_left hflat
      refine ⟨_, fill_eq_ok.mpr ⟨hhere, rfl⟩, bind_eq_ok.mpr
        ⟨_, fillAll_eq_ok.mpr ⟨Nat.succ.inj hlength, hrest, rfl⟩, ?_⟩⟩
      rw [groupedMarks, ← hhere.length_eq]
      rfl

/-- What is left over, placeholders or parameters, is noticed when the others are filled. -/
theorem fillAll_of_length_ne : ∀ {pieces : List (List Char)} {params : List Value} {taken first : Nat},
    (∀ v ∈ params, ∀ x ∈ v.bound, ∃ y, d.adapt x = .ok y) → pieces.length ≠ params.length →
      d.fillAll taken first pieces params = .error (mismatch (taken + pieces.length) (taken + params.length))
  | [], [], _, _, _, h => absurd rfl h
  | [], v :: params, taken, _, _, _ => by
    rw [mismatch, if_neg (by simp)]
    rfl
  | piece :: pieces, [], taken, _, _, _ => by
    rw [mismatch, if_pos (by simp)]
    rfl
  | piece :: pieces, v :: params, taken, first, hadapt, h => by
    obtain ⟨hv, hparams⟩ := List.forall_mem_cons.mp hadapt
    obtain ⟨here, hhere⟩ := exists_adapts hv
    -- What is in front is filled, and the count goes on from there.
    have hrest : d.fillAll (taken + 1) (first + here.length) pieces params = _ :=
      fillAll_of_length_ne hparams fun heq => h (congrArg Nat.succ heq)
    have hcount (n : Nat) : taken + (n + 1) = taken + 1 + n := Nat.add_right_comm taken n 1
    rw [fillAll, fill_eq_ok.mpr ⟨hhere, rfl⟩, List.length_cons, List.length_cons, hcount pieces.length,
      hcount params.length]
    show (d.fillAll (taken + 1) (first + here.length) pieces params >>= _) = _
    rw [hrest]
    rfl

theorem render_of_pieces {sql : String} {piece : List Char} (h : placeholderPieces none sql.toList = piece :: pieces) :
    d.render sql params = (d.fillAll 0 1 pieces params >>= fun (text, flat) =>
      .ok (d.literalText (String.ofList piece) ++ text, flat)) := by
  rw [render, h]

end

/-- Rendering substitutes placeholders. Statement text falls into literal pieces with placeholders in between, in one way
    only. If every bound value can be adapted, then a statement with more or fewer parameters than placeholders is refused,
    and any other becomes its pieces, escaped, with the marks of the parameters in between: as many for each as it binds
    values, numbered through from one, in the order of the adapted values. -/
theorem render_substitutes (d : Dialect) (sql : String) (params : List Value)
    (hadapt : ∀ v ∈ params, ∀ x ∈ v.bound, ∃ y, d.adapt x = .ok y) :
    ∃ piece pieces, (∀ other, FallsInto sql.toList other ↔ other = piece :: pieces) ∧
      (pieces.length ≠ params.length → d.render sql params = .error (mismatch pieces.length params.length) ∧
        (mismatch pieces.length params.length).name = "ValueError") ∧
      (pieces.length = params.length → ∃ flat groups, d.Adapts (params.flatMap Value.bound) flat ∧
        TakesPlaces params (d.placeholders flat.length) groups ∧
        d.render sql params = .ok (d.literalText (String.ofList piece) ++
          inTurn (groups.map (joinWith ", ")) (pieces.map fun piece => d.literalText (String.ofList piece)), flat)) := by
  obtain ⟨piece, pieces, hpieces⟩ := exists_fallsInto sql.toList
  have hcut := hpieces.placeholderPieces_eq
  refine ⟨piece, pieces, fun other => ?_, fun hlength => ⟨?_, name_mismatch _ _⟩, fun hlength => ?_⟩
  · rw [fallsInto_iff, hcut, eq_comm]
  · rw [render_of_pieces hcut, fillAll_of_length_ne hadapt hlength, Nat.zero_add, Nat.zero_add]
    rfl
  · obtain ⟨flat, hflat⟩ : ∃ flat, d.Adapts (params.flatMap Value.bound) flat :=
      exists_adapts fun x hx => by
        obtain ⟨v, hv, hx⟩ := List.mem_flatMap.mp hx
        exact hadapt v hv x hx
    refine ⟨flat, d.groupedMarks 1 params, hflat, takesPlaces_groupedMarks hflat.length_eq, ?_⟩
    rw [render_of_pieces hcut, fillAll_eq_ok.mpr ⟨hlength, hflat, rfl⟩]
    rfl

/-- A question mark in a closed span, a membership, an empty one, and a question mark behind a quote that is left open. -/
theorem render_substitutes_numbered :
    let sql := "SELECT \"a?\" FROM t WHERE b = ? AND c IN (?) AND d IN (?) AND e = ? '?"
    let params : List Value := [.int 7, .members [.int 8, .int 9], .members [], .list [.int 1]]
    (∀ v ∈ params, ∀ x ∈ v.bound, ∃ y, postgresql.adapt x = .ok y) ∧
    (∃ piece pieces flat groups, FallsInto sql.toList (piece :: pieces) ∧
      postgresql.Adapts (params.flatMap Value.bound) flat ∧
      TakesPlaces params (postgresql.placeholders flat.length) groups ∧
      postgresql.render sql params = .ok (String.ofList piece ++
        inTurn (groups.map (joinWith ", ")) (pieces.map String.ofList), flat)) ∧
    (postgresql.render sql params).toOption.map Prod.fst =
      some "SELECT \"a?\" FROM t WHERE b = $1 AND c IN ($2, $3) AND d IN () AND e = $4 '?" := by
  intro sql params
  have hadapt : ∀ v ∈ params, ∀ x ∈ v.bound, ∃ y, postgresql.adapt x = .ok y := by
    refine List.forall_mem_cons.mpr ⟨?_, List.forall_mem_cons.mpr ⟨?_, List.forall_mem_cons.mpr ⟨?_, ?_⟩⟩⟩
    · exact List.forall_mem_singleton.mpr ⟨_, rfl⟩
    · exact List.forall_mem_cons.mpr ⟨⟨_, rfl⟩, List.forall_mem_singleton.mpr ⟨_, rfl⟩⟩
    · exact List.forall_mem_nil _
    · exact List.forall_mem_singleton.mpr (List.forall_mem_singleton.mpr ⟨_, rfl⟩)
  obtain ⟨piece, pieces, hpieces, -, hfilled⟩ := render_substitutes .postgresql sql params hadapt
  have hcut : FallsInto sql.toList (piece :: pieces) := (hpieces _).mpr rfl
  have hlength : pieces.length = params.length := by
    have hcount : placeholderCount sql = params.length := by decide
    rwa [placeholderCount, hcut.placeholderPieces_eq] at hcount
  obtain ⟨flat, groups, hflat, hgroups, hrender⟩ := hfilled hlength
  exact ⟨hadapt, ⟨piece, pieces, flat, groups, hcut, hflat, hgroups, hrender⟩, by decide +kernel⟩

end Dialect
end TableQuery
