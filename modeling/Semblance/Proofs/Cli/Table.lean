import Mathlib.Data.List.Basic
import Semblance.Cli.Report

/-!
# Texts as tables

Cells are printed with tabs between them and a line feed behind each row. Cells in which neither
occurs are read back from the text, row by row. One cell with a mark in it suffices to give the text
another number of rows, or a row of it another number of cells.
-/

namespace Semblance.Cli

/-! ## Splitting at a mark -/

section Splitting

variable {mark : Char} {part : List Char} {parts : List (List Char)}

theorem length_splitOn_pos (mark : Char) (part : List Char) : 0 < (part.splitOn mark).length :=
  List.length_pos_iff.mpr (List.splitOn_ne_nil mark part)

theorem length_splitOn_eq_one_iff : (part.splitOn mark).length = 1 ↔ mark ∉ part := by
  constructor
  · intro single mem
    obtain ⟨before, after, rfl⟩ := List.append_of_mem mem
    rw [List.splitOn_append_cons_self, List.length_append] at single
    have first := length_splitOn_pos mark before
    have second := length_splitOn_pos mark after
    omega
  · intro none
    rw [List.splitOn_eq_singleton none]
    rfl

theorem length_le_flatMap_splitOn (mark : Char) (parts : List (List Char)) :
    parts.length ≤ (parts.flatMap (·.splitOn mark)).length := by
  induction parts with
  | nil => exact Nat.le_refl 0
  | cons part rest ih =>
      have pos := length_splitOn_pos mark part
      rw [List.flatMap_cons, List.length_append, List.length_cons]
      omega

/-- The pieces are as many as the parts exactly if no part has the mark in it. -/
theorem length_flatMap_splitOn_iff :
    (parts.flatMap (·.splitOn mark)).length = parts.length ↔ ∀ part ∈ parts, mark ∉ part := by
  induction parts with
  | nil => simp
  | cons part rest ih =>
      have pos := length_splitOn_pos mark part
      have least := length_le_flatMap_splitOn mark rest
      rw [List.forall_mem_cons, ← length_splitOn_eq_one_iff, ← ih, List.flatMap_cons,
        List.length_append, List.length_cons]
      omega

theorem flatMap_splitOn_eq (whole : ∀ part ∈ parts, mark ∉ part) :
    parts.flatMap (·.splitOn mark) = parts := by
  induction parts with
  | nil => rfl
  | cons part rest ih =>
      obtain ⟨first, later⟩ := List.forall_mem_cons.mp whole
      rw [List.flatMap_cons, List.splitOn_eq_singleton first, ih later]
      rfl

theorem splitOn_intercalate_eq (filled : parts ≠ []) :
    ([mark].intercalate parts).splitOn mark = parts.flatMap (·.splitOn mark) := by
  induction parts with
  | nil => exact absurd rfl filled
  | cons part rest ih =>
      cases rest with
      | nil => simp
      | cons second more =>
          rw [List.intercalate_cons_cons, List.append_assoc, List.singleton_append,
            List.splitOn_append_cons_self, ih (List.cons_ne_nil _ _)]
          rfl

end Splitting

/-! ## Lines -/

variable {lines cells : List String}

theorem toList_unlines (lines : List String) :
    (unlines lines).toList = lines.flatMap fun line => line.toList ++ ['\n'] := by
  rw [unlines, String.toList_join, List.flatMap_map]
  simp only [String.toList_append]
  rfl

theorem splitOn_unlines (lines : List String) : (unlines lines).toList.splitOn '\n' =
    (lines.map (·.toList)).flatMap (·.splitOn '\n') ++ [[]] := by
  rw [toList_unlines]
  induction lines with
  | nil => rfl
  | cons line rest ih =>
      rw [List.flatMap_cons, List.append_assoc, List.singleton_append,
        List.splitOn_append_cons_self, ih, List.map_cons, List.flatMap_cons, List.append_assoc]

theorem getLast?_unlines (filled : lines ≠ []) : (unlines lines).toList.getLast? = some '\n' := by
  rw [toList_unlines, ← List.dropLast_concat_getLast filled, List.flatMap_append]
  simp

/-- The rows of a text, with the cells between the tabs of each. What stands behind the last line
feed is no row. -/
def readTable (text : String) : List (List String) :=
  (text.toList.splitOn '\n').dropLast.map fun line => (line.splitOn '\t').map String.ofList

theorem length_readTable_unlines_iff :
    (readTable (unlines lines)).length = lines.length ↔ ∀ line ∈ lines, '\n' ∉ line.toList := by
  rw [readTable, splitOn_unlines, List.dropLast_concat, List.length_map,
    ← List.length_map String.toList, length_flatMap_splitOn_iff, List.forall_mem_map]

theorem readTable_unlines (whole : ∀ line ∈ lines, '\n' ∉ line.toList) :
    readTable (unlines lines) =
      lines.map fun line => (line.toList.splitOn '\t').map String.ofList := by
  have parts : ∀ part ∈ lines.map (·.toList), '\n' ∉ part := List.forall_mem_map.mpr whole
  rw [readTable, splitOn_unlines, List.dropLast_concat, flatMap_splitOn_eq parts, List.map_map]
  rfl

/-! ## Cells -/

theorem toList_columns (cells : List String) :
    (columns cells).toList = ['\t'].intercalate (cells.map (·.toList)) := by
  rw [columns, String.toList_intercalate]
  rfl

theorem length_splitOn_columns_iff (filled : cells ≠ []) :
    ((columns cells).toList.splitOn '\t').length = cells.length ↔
      ∀ cell ∈ cells, '\t' ∉ cell.toList := by
  rw [toList_columns, splitOn_intercalate_eq (mt List.map_eq_nil_iff.mp filled),
    ← List.length_map String.toList, length_flatMap_splitOn_iff, List.forall_mem_map]

theorem splitOn_columns (filled : cells ≠ []) (whole : ∀ cell ∈ cells, '\t' ∉ cell.toList) :
    ((columns cells).toList.splitOn '\t').map String.ofList = cells := by
  have parts : ∀ part ∈ cells.map (·.toList), '\t' ∉ part := List.forall_mem_map.mpr whole
  rw [toList_columns, splitOn_intercalate_eq (mt List.map_eq_nil_iff.mp filled),
    flatMap_splitOn_eq parts, List.map_map]
  simp [Function.comp_def]

theorem lineFeed_mem_columns_iff :
    '\n' ∈ (columns cells).toList ↔ ∃ cell ∈ cells, '\n' ∈ cell.toList := by
  rw [toList_columns]
  induction cells with
  | nil => simp
  | cons cell rest ih =>
      cases rest with
      | nil => simp
      | cons second more =>
          rw [List.map_cons] at ih
          simp [List.map_cons, List.intercalate_cons_cons, ih]

/-! ## Tables -/

/-- There is neither a tab nor a line feed in the cell. -/
def IsPlain (cell : String) : Prop := '\t' ∉ cell.toList ∧ '\n' ∉ cell.toList

instance : DecidablePred IsPlain := fun _ => inferInstanceAs (Decidable (_ ∧ _))

def ArePlain (rows : List (List String)) : Prop := ∀ row ∈ rows, ∀ cell ∈ row, IsPlain cell

theorem arePlain_cons_iff {row : List String} {rows : List (List String)} :
    ArePlain (row :: rows) ↔ (∀ cell ∈ row, IsPlain cell) ∧ ArePlain rows :=
  List.forall_mem_cons

/-- The text consists of this many lines, each with its end and with this many cells. -/
structure IsTable (rows columns : Nat) (text : String) : Prop where
  ended : text.toList.getLast? = some '\n'
  length : (readTable text).length = rows
  width : ∀ row ∈ readTable text, row.length = columns

variable {rows : List (List String)} {width : Nat}

/-- Rows of one width, and at least one of them. -/
structure IsRectangle (width : Nat) (rows : List (List String)) : Prop where
  nonempty : rows ≠ []
  pos : 0 < width
  width : ∀ row ∈ rows, row.length = width

theorem IsRectangle.ne_nil (rectangle : IsRectangle width rows) : ∀ row ∈ rows, row ≠ [] := by
  intro row mem
  have length := rectangle.width row mem
  have pos := rectangle.pos
  exact List.ne_nil_of_length_pos (by omega)

theorem IsRectangle.ended (rectangle : IsRectangle width rows) :
    (unlines (rows.map columns)).toList.getLast? = some '\n' :=
  getLast?_unlines (mt List.map_eq_nil_iff.mp rectangle.nonempty)

theorem readTable_of_arePlain (rectangle : IsRectangle width rows) (plain : ArePlain rows) :
    readTable (unlines (rows.map columns)) = rows := by
  have whole : ∀ line ∈ rows.map columns, '\n' ∉ line.toList := by
    rw [List.forall_mem_map]
    intro row mem
    rw [lineFeed_mem_columns_iff]
    rintro ⟨cell, inRow, feed⟩
    exact (plain row mem cell inRow).2 feed
  rw [readTable_unlines whole, List.map_map]
  refine (List.map_congr_left fun row mem => ?_).trans (List.map_id rows)
  exact splitOn_columns (rectangle.ne_nil row mem) fun cell inRow => (plain row mem cell inRow).1

theorem isTable_of_arePlain (rectangle : IsRectangle width rows) (plain : ArePlain rows) :
    IsTable rows.length width (unlines (rows.map columns)) where
  ended := rectangle.ended
  length := by rw [readTable_of_arePlain rectangle plain]
  width := by
    rw [readTable_of_arePlain rectangle plain]
    exact rectangle.width

/-- A line feed in a cell makes another line, and a tab another cell. -/
theorem arePlain_of_isTable (rectangle : IsRectangle width rows)
    (table : IsTable rows.length width (unlines (rows.map columns))) : ArePlain rows := by
  have lines := table.length
  have count : (rows.map columns).length = rows.length := List.length_map columns
  rw [← count, length_readTable_unlines_iff] at lines
  have cells := table.width
  rw [readTable_unlines lines, List.map_map, List.forall_mem_map] at cells
  rw [List.forall_mem_map] at lines
  intro row mem
  have feeds := lines row mem
  rw [lineFeed_mem_columns_iff] at feeds
  have tabs := cells row mem
  rw [Function.comp_apply, List.length_map, ← rectangle.width row mem,
    length_splitOn_columns_iff (rectangle.ne_nil row mem)] at tabs
  exact fun cell inRow => ⟨tabs cell inRow, fun feed => feeds ⟨cell, inRow, feed⟩⟩

theorem isTable_iff (rectangle : IsRectangle width rows) :
    IsTable rows.length width (unlines (rows.map columns)) ↔ ArePlain rows :=
  ⟨arePlain_of_isTable rectangle, isTable_of_arePlain rectangle⟩

/-- The rows are read back from the text exactly if the text is a table. -/
theorem readTable_eq_iff (rectangle : IsRectangle width rows) :
    readTable (unlines (rows.map columns)) = rows ↔ ArePlain rows := by
  refine ⟨fun read => arePlain_of_isTable rectangle ⟨rectangle.ended, ?_, ?_⟩,
    readTable_of_arePlain rectangle⟩
  · rw [read]
  · rw [read]
    exact rectangle.width

end Semblance.Cli
