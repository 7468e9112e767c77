import QueryMetrics.Proofs.Definition.Decoding
import QueryMetrics.Row.Decode

/-!
# What a row is decoded to

Cells are read one after another, as many as there are columns, and a cell that cannot be read ends
the decoding at once. Only then the number of cells is compared with that of the columns. So what
can go wrong with a row is a list of failures in this order (`decodingFailures`), and the first of
them is the failure of the row (`decodeRow_eq`).

A row that decodes becomes a table (`IsTable`): its keys are the lower-case names of the columns,
each of them once, and under a name stands the text of the last column of that name.
-/

namespace QueryMetrics

open Text

/-! ### The first of several failures -/

/-- A value, unless something failed before; the first failure decides. -/
def unlessFailed {α : Type} (failures : List Failure) (a : α) : Except Failure α :=
  match failures.head? with
  | some failure => .error failure
  | none => .ok a

section unlessFailed

variable {α β : Type} {failures : List Failure} {a : α}

@[simp] theorem unlessFailed_nil (a : α) : unlessFailed [] a = .ok a := rfl

@[simp] theorem unlessFailed_cons (failure : Failure) (rest : List Failure) (a : α) :
    unlessFailed (failure :: rest) a = .error failure := rfl

theorem unlessFailed_eq_ok {b : α} : unlessFailed failures a = .ok b ↔ failures = [] ∧ a = b := by
  cases failures <;> simp

theorem unlessFailed_append (failures later : List Failure) (a : α) :
    unlessFailed (failures ++ later) a =
      (unlessFailed failures ()).bind fun _ => unlessFailed later a := by
  cases failures <;> rfl

theorem unlessFailed_bind (failures : List Failure) (a : α) (next : α → Except Failure β) :
    (unlessFailed failures a).bind next = (unlessFailed failures ()).bind fun _ => next a := by
  cases failures <;> rfl

end unlessFailed

/-! ### Keys that are written more than once -/

namespace Entries

variable {κ α : Type} [BEq κ] [LawfulBEq κ] {key : κ}

/-- What is written under a key stays if the key is not written again. -/
theorem find?_ofList_of_last {back : List (κ × α)} (h : ∀ entry ∈ back, entry.1 ≠ key)
    (front : List (κ × α)) (value : α) :
    find? key (ofList (front ++ (key, value) :: back)) = some value := by
  have hback : (back.filter fun entry => entry.1 == key) = [] :=
    List.filter_eq_nil_iff.mpr fun entry hentry => by simpa using h entry hentry
  rw [find?_ofList, valuesOf, List.filter_append, List.filter_cons_of_pos (by simp), hback]
  simp

/-- The keys of a table are those that were written. -/
theorem mem_keys_ofList {entries : List (κ × α)} :
    key ∈ (ofList entries).keys ↔ key ∈ entries.map (·.1) := by
  rw [mem_keys_iff, List.mem_map]
  constructor
  · rintro ⟨value, hvalue⟩
    rw [find?_ofList] at hvalue
    obtain ⟨entry, hentry, -⟩ := List.mem_map.mp (List.mem_of_getLast? hvalue)
    obtain ⟨hmem, hkey⟩ := List.mem_filter.mp hentry
    exact ⟨entry, hmem, eq_of_beq hkey⟩
  · rintro ⟨entry, hentry, rfl⟩
    have hwritten : entry.2 ∈ valuesOf entry.1 entries :=
      List.mem_map_of_mem (List.mem_filter.mpr ⟨hentry, by simp⟩)
    rw [find?_ofList]
    cases hlast : (valuesOf entry.1 entries).getLast? with
    | some value => exact ⟨value, rfl⟩
    | none =>
      rw [List.getLast?_eq_none_iff.mp hlast] at hwritten
      cases hwritten

end Entries

/-! ### Reading cells -/

namespace Cell

/-- Why the cell cannot be read. -/
def failure? : Cell → Option Failure
  | brokenObject failure => some failure
  | _ => none

/-- The text of a cell; it is empty if there is no value. -/
def shown : Cell → String
  | value .null => ""
  | cell => cell.content.display

theorem text_eq (cell : Cell) : cell.text = unlessFailed cell.failure?.toList cell.shown := by
  cases cell with
  | value content => cases content <;> rfl
  | largeObject content => rfl
  | brokenObject failure => rfl

end Cell

/-- Cells are read up to the first that cannot be read, and none without a column. -/
theorem decodeCells_eq (names : List String) (cells : List Cell) :
    decodeCells names cells =
      unlessFailed ((cells.take names.length).filterMap Cell.failure?)
        (names.zip (cells.map Cell.shown)) := by
  induction names generalizing cells with
  | nil => cases cells <;> rfl
  | cons name names ih =>
    cases cells with
    | nil => rfl
    | cons cell cells =>
      change (cell.text.bind fun text => (decodeCells names cells).bind fun rest =>
        .ok ((name, text) :: rest)) = _
      rw [ih, Cell.text_eq, List.length_cons, List.take_succ_cons, List.filterMap_cons]
      cases cell.failure? with
      | some failure => rfl
      | none => cases (cells.take names.length).filterMap Cell.failure? <;> rfl

/-! ### Rows -/

/-- What is wrong with a row, in the order in which it is found. -/
def decodingFailures (names : List String) (cells : List Cell) : List Failure :=
  (cells.take names.length).filterMap Cell.failure? ++
    if cells.length = names.length then [] else [.rowWidth names.length cells.length]

/-- A row is decoded unless something is wrong with it. -/
theorem decodeRow_eq (names : List String) (cells : List Cell) :
    decodeRow names cells =
      unlessFailed (decodingFailures names cells)
        (Entries.ofList (names.zip (cells.map Cell.shown))) := by
  change ((decodeCells names cells).bind fun entries =>
    if cells.length = names.length then .ok (Entries.ofList entries)
    else .error (.rowWidth names.length cells.length)) = _
  rw [decodeCells_eq, decodingFailures, unlessFailed_append, unlessFailed_bind]
  split <;> rfl

/-- The row has a cell for every column and no other, and every cell has a text. -/
structure HasTexts (columns : List String) (cells : List Cell) : Prop where
  length : cells.length = columns.length
  texts : ∀ cell ∈ cells, ∃ text, cell.text = .ok text

theorem HasTexts.text_eq {columns : List String} {cells : List Cell} (h : HasTexts columns cells)
    {cell : Cell} (hcell : cell ∈ cells) : cell.text = .ok cell.shown := by
  obtain ⟨text, htext⟩ := h.texts cell hcell
  have hshown := htext
  rw [Cell.text_eq, unlessFailed_eq_ok] at hshown
  rw [htext, hshown.2]

/-- Nothing is wrong with a row exactly if it has texts for the columns. -/
theorem decodingFailures_eq_nil_iff {columns : List String} {cells : List Cell} :
    decodingFailures (columnNames columns) cells = [] ↔ HasTexts columns cells := by
  have hread : ∀ cell : Cell, cell.failure? = none ↔ ∃ text, cell.text = .ok text := by
    intro cell
    rw [Cell.text_eq]
    cases cell.failure? <;> simp
  rw [decodingFailures, List.append_eq_nil_iff, List.filterMap_eq_nil_iff, columnNames,
    List.length_map]
  by_cases hwidth : cells.length = columns.length
  · rw [List.take_of_length_le (Nat.le_of_eq hwidth), if_pos hwidth]
    exact ⟨fun h => ⟨hwidth, fun cell hcell => (hread cell).mp (h.1 cell hcell)⟩,
      fun h => ⟨fun cell hcell => (hread cell).mpr (h.texts cell hcell), rfl⟩⟩
  · rw [if_neg hwidth]
    exact ⟨fun h => (List.cons_ne_nil _ _ h.2).elim, fun h => absurd h.length hwidth⟩

/-- The table shows the cells of a row under the lower-case names of their columns. Of columns with
the same name it shows the last one. -/
structure IsTable (columns : List String) (cells : List Cell) (table : Row) : Prop where
  nodup_keys : table.keys.Nodup
  mem_keys : ∀ name, name ∈ table.keys ↔ ∃ column ∈ columns, lower column = name
  find? : ∀ (i : Nat) (column : String) (cell : Cell), columns[i]? = some column →
    cells[i]? = some cell →
    (∀ (j : Nat) (later : String), i < j → columns[j]? = some later → lower later ≠ lower column) →
    ∃ text, cell.text = .ok text ∧ table.find? (lower column) = some text

/-- A row with texts for the columns becomes a table that shows it. -/
theorem HasTexts.isTable {columns : List String} {cells : List Cell} (h : HasTexts columns cells) :
    IsTable columns cells
      (Entries.ofList ((columnNames columns).zip (cells.map Cell.shown))) := by
  have hlength : (columnNames columns).length = (cells.map Cell.shown).length := by
    rw [List.length_map, h.length, columnNames, List.length_map]
  refine ⟨Entries.nodup_keys_ofList _, fun name => ?_, fun i column cell hcolumn hcell hlast => ?_⟩
  · rw [Entries.mem_keys_ofList, List.map_fst_zip (Nat.le_of_eq hlength), columnNames,
      List.mem_map]
  · let entries := (columnNames columns).zip (cells.map Cell.shown)
    have hentry : entries[i]? = some (lower column, cell.shown) := by
      simp [entries, columnNames, List.getElem?_zip_eq_some, hcolumn, hcell]
    obtain ⟨hi, hvalue⟩ := List.getElem?_eq_some_iff.mp hentry
    have hsplit :
        entries = entries.take i ++ (lower column, cell.shown) :: entries.drop (i + 1) := by
      rw [← hvalue, ← List.drop_eq_getElem_cons hi, List.take_append_drop]
    refine ⟨cell.shown, h.text_eq (List.mem_of_getElem? hcell), ?_⟩
    rw [show (columnNames columns).zip (cells.map Cell.shown) = _ from hsplit]
    refine Entries.find?_ofList_of_last (fun entry hback => ?_) _ _
    -- what is written later stands under a later column
    obtain ⟨k, hk⟩ := List.mem_iff_getElem?.mp hback
    rw [List.getElem?_drop, List.getElem?_zip_eq_some, columnNames, List.getElem?_map] at hk
    obtain ⟨later, hlater, hname⟩ := Option.map_eq_some_iff.mp hk.1
    rw [← hname]
    exact hlast (i + 1 + k) later (by omega) hlater

end QueryMetrics
