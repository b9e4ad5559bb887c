import TableQuery.Proofs.DoubleText
import TableQuery.Proofs.StoredEntities

/-! The JSON text of containers. Dates, times, decimals and identifiers inside a container become text, sets and tuples
    lists, records dictionaries, and named constants what they stand for. So every container of single values has JSON text,
    but for those that hold bytes or whole numbers with very many digits. -/

namespace TableQuery

namespace Value

mutual

/-- The single values inside a value, in the order in which they are written. -/
def leaves : Value → List Value
  | .list xs => leavesOf xs
  | .tuple xs => leavesOf xs
  | .set _ xs => leavesOf xs
  | .members xs => leavesOf xs
  | .dict es => leavesIn es
  | .record _ fs => leavesIn fs
  | .enum _ _ v => leaves v
  | v => [v]

def leavesOf : List Value → List Value
  | [] => []
  | x :: xs => leaves x ++ leavesOf xs

def leavesIn : List (String × Value) → List Value
  | [] => []
  | (_, x) :: es => leaves x ++ leavesIn es

end

/-- Why a single value has no JSON text: bytes have none, and whole numbers with very many digits. -/
def jsonFault? : Value → Option Json.WriteError
  | .bytes _ => some (.noText "bytes")
  | .int n => if maxNumeralDigits < digitCount n.natAbs then some .tooLong else none
  | _ => none

end Value

namespace Json
open Value

/-- A value has JSON text where nothing is wrong with its leaves, and otherwise the first fault stops the writing. -/
def WritesUnless (fault : Option WriteError) (u : Value) : Prop := match fault with
  | none => ∃ w, Written (some maxNumeralDigits) u w
  | some e => writeChars (some maxNumeralDigits) u = .error e

/-- Likewise for the items of a list. -/
def WritesItemsUnless (fault : Option WriteError) (us : List Value) : Prop := match fault with
  | none => ∃ ws, List.Forall₂ (Written (some maxNumeralDigits)) us ws
  | some e => writeItems (some maxNumeralDigits) us = .error e

/-- Likewise for the entries of a dictionary. -/
def WritesEntriesUnless (fault : Option WriteError) (us : List (String × Value)) : Prop := match fault with
  | none => ∃ ws, List.Forall₂ (WrittenEntry (some maxNumeralDigits)) us ws
  | some e => writeEntries (some maxNumeralDigits) us = .error e

section
variable {fault others : Option WriteError} {u : Value} {us : List Value} {es : List (String × Value)}

theorem writesItems_nil : WritesItemsUnless none [] := ⟨[], .nil⟩

theorem WritesUnless.cons (hu : WritesUnless fault u) (hus : WritesItemsUnless others us) :
    WritesItemsUnless (fault.or others) (u :: us) := by
  cases fault with
  | some e =>
    have herror : writeChars (some maxNumeralDigits) u = .error e := hu
    show writeItems (some maxNumeralDigits) (u :: us) = .error e
    rw [writeItems, herror]
    rfl
  | none =>
    obtain ⟨w, hw⟩ := hu
    cases others with
    | none =>
      obtain ⟨ws, hws⟩ := hus
      exact ⟨w :: ws, .cons hw hws⟩
    | some e =>
      obtain ⟨cs, hcs, -⟩ := hw
      have herror : writeItems (some maxNumeralDigits) us = .error e := hus
      show writeItems (some maxNumeralDigits) (u :: us) = .error e
      rw [writeItems, hcs, herror]
      rfl

theorem writesEntries_nil : WritesEntriesUnless none [] := ⟨[], .nil⟩

theorem WritesUnless.consEntry (k : String) (hu : WritesUnless fault u) (hes : WritesEntriesUnless others es) :
    WritesEntriesUnless (fault.or others) ((k, u) :: es) := by
  cases fault with
  | some e =>
    have herror : writeChars (some maxNumeralDigits) u = .error e := hu
    show writeEntries (some maxNumeralDigits) ((k, u) :: es) = .error e
    rw [writeEntries, herror]
    rfl
  | none =>
    obtain ⟨w, hw⟩ := hu
    cases others with
    | none =>
      obtain ⟨ws, hws⟩ := hes
      exact ⟨(k, w) :: ws, .cons ⟨rfl, hw⟩ hws⟩
    | some e =>
      obtain ⟨cs, hcs, -⟩ := hw
      have herror : writeEntries (some maxNumeralDigits) es = .error e := hes
      show writeEntries (some maxNumeralDigits) ((k, u) :: es) = .error e
      rw [writeEntries, hcs, herror]
      rfl

theorem WritesItemsUnless.list (h : WritesItemsUnless fault us) : WritesUnless fault (.list us) := by
  cases fault with
  | none =>
    obtain ⟨ws, hws⟩ := h
    exact ⟨_, written_list hws⟩
  | some e =>
    have herror : writeItems (some maxNumeralDigits) us = .error e := h
    show writeChars (some maxNumeralDigits) (.list us) = .error e
    rw [writeChars, herror]
    rfl

theorem WritesEntriesUnless.dict (h : WritesEntriesUnless fault es) : WritesUnless fault (.dict es) := by
  cases fault with
  | none =>
    obtain ⟨ws, hws⟩ := h
    exact ⟨_, written_dict hws⟩
  | some e =>
    have herror : writeEntries (some maxNumeralDigits) es = .error e := h
    show writeChars (some maxNumeralDigits) (.dict es) = .error e
    rw [writeChars, herror]
    rfl

end

theorem writesUnless_int (n : Int) : WritesUnless (jsonFault? (.int n)) (.int n) := by
  unfold jsonFault?
  dsimp only
  split
  · rename_i hlong
    show writeChars (some maxNumeralDigits) (.int n) = .error .tooLong
    rw [writeChars]
    exact if_pos (decide_eq_true hlong)
  · rename_i hshort
    exact ⟨_, written_int fun most hmost => by cases hmost; exact Nat.not_lt.mp hshort⟩

/-- The stored form of a single value. -/
theorem writes_scalar {v : Value} (h : v.isScalar = true) :
    ∃ u, v.storable = .ok u ∧ WritesUnless (v.leaves.findSome? jsonFault?) u := by
  cases v with
  | null => exact ⟨.null, rfl, _, written_null⟩
  | bool b => exact ⟨.bool b, rfl, _, written_bool b⟩
  | int n =>
    refine ⟨.int n, rfl, ?_⟩
    show WritesUnless ([Value.int n].findSome? jsonFault?) (.int n)
    rw [List.findSome?_singleton]
    exact writesUnless_int n
  | double x =>
    obtain ⟨y, hy⟩ := @exists_written_double (some maxNumeralDigits) x
    exact ⟨.double x, rfl, _, hy⟩
  | bytes bs => exact ⟨.bytes bs, rfl, rfl⟩
  | text s => exact ⟨.text s, rfl, _, written_text s⟩
  | decimal d => exact ⟨.text d.text, rfl, _, written_text d.text⟩
  | date d => exact ⟨.text d.text, rfl, _, written_text d.text⟩
  | clock c => exact ⟨.text c.text, rfl, _, written_text c.text⟩
  | instant i => exact ⟨.text i.text, rfl, _, written_text i.text⟩
  | uuid s => exact ⟨.text s, rfl, _, written_text s⟩
  | _ => cases h

mutual

/-- The stored form of nested single values. -/
theorem writes_storable : ∀ v : Value, (∀ x ∈ v.leaves, x.isScalar = true) →
    ∃ u, v.storable = .ok u ∧ WritesUnless (v.leaves.findSome? jsonFault?) u
  | .list xs, h => by
    obtain ⟨us, hus, hwrites⟩ := writes_storableItems xs h
    exact ⟨.list us, by rw [storable, hus]; rfl, hwrites.list⟩
  | .tuple xs, h => by
    obtain ⟨us, hus, hwrites⟩ := writes_storableItems xs h
    exact ⟨.list us, by rw [storable, hus]; rfl, hwrites.list⟩
  | .set _ xs, h => by
    obtain ⟨us, hus, hwrites⟩ := writes_storableItems xs h
    exact ⟨.list us, by rw [storable, hus]; rfl, hwrites.list⟩
  | .members xs, h => by
    obtain ⟨us, hus, hwrites⟩ := writes_storableItems xs h
    have hentries := hwrites.list.consEntry "items" writesEntries_nil
    rw [Option.or_none] at hentries
    exact ⟨.dict [("items", .list us)], by rw [storable, hus]; rfl, hentries.dict⟩
  | .dict es, h => by
    obtain ⟨us, hus, hwrites⟩ := writes_storableEntries es h
    exact ⟨.dict us, by rw [storable, hus]; rfl, hwrites.dict⟩
  | .record _ fs, h => by
    obtain ⟨us, hus, hwrites⟩ := writes_storableEntries fs h
    exact ⟨.dict us, by rw [storable, hus]; rfl, hwrites.dict⟩
  | .enum _ _ v, h => writes_storable v h
  | .null, h | .bool _, h | .int _, h | .double _, h | .decimal _, h | .text _, h | .bytes _, h | .date _, h | .clock _, h
  | .instant _, h | .uuid _, h | .bag _, h | .entity .., h | .model _, h => writes_scalar (h _ List.mem_cons_self)

theorem writes_storableItems : ∀ xs : List Value, (∀ x ∈ leavesOf xs, x.isScalar = true) →
    ∃ us, storableItems xs = .ok us ∧ WritesItemsUnless ((leavesOf xs).findSome? jsonFault?) us
  | [], _ => ⟨[], rfl, writesItems_nil⟩
  | x :: xs, h => by
    rw [leavesOf] at h ⊢
    obtain ⟨hx, hxs⟩ := List.forall_mem_append.mp h
    obtain ⟨u, hu, hwrites⟩ := writes_storable x hx
    obtain ⟨us, hus, hothers⟩ := writes_storableItems xs hxs
    refine ⟨u :: us, by rw [storableItems, hu, hus]; rfl, ?_⟩
    rw [List.findSome?_append]
    exact hwrites.cons hothers

theorem writes_storableEntries : ∀ es : List (String × Value), (∀ x ∈ leavesIn es, x.isScalar = true) →
    ∃ us, storableEntries es = .ok us ∧ WritesEntriesUnless ((leavesIn es).findSome? jsonFault?) us
  | [], _ => ⟨[], rfl, writesEntries_nil⟩
  | (k, x) :: es, h => by
    rw [leavesIn] at h ⊢
    obtain ⟨hx, hes⟩ := List.forall_mem_append.mp h
    obtain ⟨u, hu, hwrites⟩ := writes_storable x hx
    obtain ⟨us, hus, hothers⟩ := writes_storableEntries es hes
    refine ⟨(k, u) :: us, by rw [storableEntries, hu, hus]; rfl, ?_⟩
    rw [List.findSome?_append]
    exact hwrites.consEntry k hothers

end

theorem exists_write {u : Value} (h : WritesUnless none u) :
    ∃ s w, write u = .ok s ∧ Denotes (some maxNumeralDigits) s w := by
  obtain ⟨w, hw⟩ := h
  obtain ⟨s, hs, hdenotes⟩ := writeWithin_of_written hw
  exact ⟨s, w, hs, hdenotes⟩

theorem write_eq_error {e : WriteError} {u : Value} (h : WritesUnless (some e) u) : write u = .error e := by
  have herror : writeChars (some maxNumeralDigits) u = .error e := h
  rw [write, writeWithin, herror]
  rfl

end Json

namespace Value

/-- What a value stands for: a named constant for its value, any other value for itself. -/
def standsFor : Value → Value
  | .enum _ _ v => v
  | v => v

/-- Whether a value is taken for a container: lists, tuples, dictionaries, sets that can change, and records that are marked
    like entities. -/
def isTakenForContainer : Value → Bool
  | .list _ | .tuple _ | .dict _ => true
  | .set frozen _ => !frozen
  | .record _ fs => Row.hasColumn fs Dialect.dumpAttribute
  | _ => false

theorem leaves_standsFor (v : Value) : v.standsFor.leaves = v.leaves := by cases v <;> rfl

theorem storable_standsFor (v : Value) : v.standsFor.storable = v.storable := by cases v <;> rfl

end Value

namespace Dialect

section
variable {v u : Value} (hu : v.storable = .ok u)
include hu

theorem jsonText_eq_text {s : String} (hs : Json.write u = .ok s) : jsonText v = .ok (.text s) := by
  rw [jsonText, hu]
  dsimp only [bind, Except.bind]
  rw [hs]

theorem jsonText_eq_error {e : Json.WriteError} (he : Json.write u = .error e) : jsonText v = .error (.misuse e.misuse) := by
  rw [jsonText, hu]
  dsimp only [bind, Except.bind]
  rw [he]

end

/-- A value is taken like a constant that stands for the same. -/
theorem adaptCommon_standsFor (v : Value) : adaptCommon v = adaptCommon (.enum "" "" v.standsFor) := by cases v <;> rfl

section
variable {v : Value}

theorem adaptCommon_container (h : v.standsFor.isTakenForContainer = true) : adaptCommon v = jsonText v.standsFor := by
  rw [adaptCommon_standsFor]
  cases hv : v.standsFor with
  | list | tuple | dict => rfl
  | set frozen xs =>
    rw [hv] at h
    cases frozen with
    | false => rfl
    | true => cases h
  | record kind fs =>
    rw [hv] at h
    exact if_pos h
  | _ =>
    rw [hv] at h
    cases h

theorem adaptCommon_other (h : v.standsFor.isTakenForContainer = false)
    (hleaves : ∀ x ∈ v.leaves, x.isScalar = true) : adaptCommon v = .ok v.standsFor := by
  rw [adaptCommon_standsFor]
  rw [← v.leaves_standsFor] at hleaves
  cases hv : v.standsFor with
  | list | tuple | dict =>
    rw [hv] at h
    cases h
  | entity | model | bag =>
    rw [hv] at hleaves
    cases hleaves _ List.mem_cons_self
  | set frozen xs =>
    rw [hv] at h
    cases frozen with
    | false => cases h
    | true => rfl
  | record kind fs =>
    rw [hv] at h
    exact if_neg (by rw [show Row.hasColumn fs dumpAttribute = false from h]; decide)
  | _ => rfl

end

/-- A container of single values becomes the JSON text of its stored form, whatever is nested in it and whatever the
    dialect, unless a leaf has no JSON text; the first such leaf is what the failure is about. What is not taken for a
    container is not written: a constant is taken like the single value that it stands for, and a record stays a record. -/
theorem adapt_nested (d : Dialect) (v : Value) (h : ∀ x ∈ v.leaves, x.isScalar = true) :
    (v.standsFor.isTakenForContainer = true → match v.leaves.findSome? Value.jsonFault? with
      | none => ∃ u s w, v.storable = .ok u ∧ Json.write u = .ok s ∧ Json.Denotes (some maxNumeralDigits) s w ∧
        d.adapt v = .ok (.text s)
      | some e => d.adapt v = .error (.misuse e.misuse)) ∧
    (v.standsFor.isTakenForContainer = false →
      d.adapt v = if v.standsFor.isScalar then d.adapt v.standsFor else .ok v.standsFor) := by
  constructor
  · intro hcontainer
    have hcommon := adaptCommon_container hcontainer
    obtain ⟨u, hu, hwrites⟩ := Json.writes_storable v h
    cases hfault : v.leaves.findSome? Value.jsonFault? with
    | none =>
      rw [hfault] at hwrites
      obtain ⟨s, w, hs, hdenotes⟩ := Json.exists_write hwrites
      refine ⟨u, s, w, hu, hs, hdenotes, ?_⟩
      rw [adapt, hcommon, jsonText_eq_text (v.storable_standsFor.trans hu) hs]
      cases d <;> rfl
    | some e =>
      rw [hfault] at hwrites
      show d.adapt v = .error (.misuse e.misuse)
      rw [adapt, hcommon, jsonText_eq_error (v.storable_standsFor.trans hu) (Json.write_eq_error hwrites)]
      rfl
  · intro hother
    rw [adapt, adaptCommon_other hother h]
    rw [← v.leaves_standsFor] at h
    cases hv : v.standsFor with
    | list | tuple | dict =>
      rw [hv] at hother
      cases hother
    | entity | model | bag =>
      rw [hv] at h
      cases h _ List.mem_cons_self
    | set | members | enum | record => cases d <;> rfl
    | _ => rfl

/-- Bytes inside a list have no JSON text. -/
theorem adapt_nested_bytes : let v : Value := .list [.int 1, .dict [("a", .bytes [0x61])]]
    (∀ x ∈ v.leaves, x.isScalar = true) ∧ Dialect.sqlite.adapt v = .error (.misuse (.noJson "bytes")) := by
  intro v
  have hleaves : ∀ x ∈ v.leaves, x.isScalar = true := by decide
  exact ⟨hleaves, (adapt_nested .sqlite v hleaves).1 rfl⟩

end Dialect

end TableQuery
