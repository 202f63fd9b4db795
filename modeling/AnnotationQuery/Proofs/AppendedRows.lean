import AnnotationQuery.Proofs.MergedTable
import Mathlib.Data.List.Forall2

/-!
# Appended rows

A table keeps its header and its rows when another one is appended. Under equal headers every cell
of the other table stays in its place. Under different headers each cell goes to one column only,
the first one with its name, so that a header that repeats a name gets null in all but the first of
its columns, although the other table has cells under that name.

Results:
* `Table.getElem?_rearranged_eq`: every cell of a rearranged row.
* `Table.appended_placed`: the row that a row of the other table becomes.
* `Table.append_cells`: which cells reach a table, which are lost and which are filled in.
-/

namespace AnnotationQuery.Table

variable {t other : Table} {row : List Value}

/-- A row holds a cell in some column with a name. -/
def Holds (t : Table) (row : List Value) (name : String) (cell : Value) : Prop :=
  ∃ k : Nat, t.columns[k]? = some name ∧ row[k]? = some cell

/-- What a row of `other` becomes behind the rows of `t`. A column takes a cell with its name if the
headers are equal or if no earlier column has the name. -/
structure Appended (t other : Table) (row new : List Value) : Prop where
  width : new.length = t.columns.length
  kept : ∀ (j : Nat) name, t.columns[j]? = some name → name ∈ other.columns →
    other.columns = t.columns ∨ name ∉ t.columns.take j →
    ∃ cell, new[j]? = some cell ∧ other.Holds row name cell
  lost : ∀ (j : Nat) name, t.columns[j]? = some name → name ∈ other.columns →
    other.columns ≠ t.columns → name ∈ t.columns.take j → new[j]? = some .null
  filled : ∀ (j : Nat) name, t.columns[j]? = some name → name ∉ other.columns → new[j]? = some .null

/-! ## Cells of rearranged rows -/

theorem holds_of_cell? {name : String} {cell : Value} (h : t.cell? row name = some cell) :
    t.Holds row name cell := by
  obtain ⟨k, hk, hcell⟩ := Option.bind_eq_some_iff.1 h
  obtain ⟨hlt, hname, -⟩ := List.findIdx?_eq_some_iff_getElem.1 hk
  exact ⟨k, List.getElem?_eq_some_iff.2 ⟨hlt, eq_of_beq hname⟩, hcell⟩

/-- A rearranged row has the first cell with its name under every name that stands there for the
first time, and null elsewhere. -/
theorem getElem?_rearranged_eq (t : Table) (row : List Value) (seen names : List String) (j : Nat) :
    (t.rearranged row seen names)[j]? = names[j]?.map fun name =>
      if name ∈ seen ∨ name ∈ names.take j then .null else (t.cell? row name).getD .null := by
  induction names generalizing seen j with
  | nil => rfl
  | cons first names ih =>
    cases j with
    | zero => simp [rearranged, cell?]
    | succ j =>
      rw [rearranged, List.getElem?_cons_succ, List.getElem?_cons_succ, ih]
      -- what was seen grows by the first name, which is the first of those taken
      have hseen (name : String) : (name ∈ first :: seen ∨ name ∈ names.take j) ↔
          (name ∈ seen ∨ name ∈ (first :: names).take (j + 1)) := by
        rw [List.take_succ_cons, List.mem_cons, List.mem_cons, or_comm (a := name = first),
          or_assoc]
      simp only [hseen]

/-! ## Rows of another table -/

/-- The row that a row of another table becomes. -/
theorem appended_placed (hrow : row.length = other.columns.length) :
    t.Appended other row (other.placed t.columns row) := by
  have hwidth : (other.placed t.columns row).length = t.columns.length := length_placed hrow
  by_cases heq : other.columns = t.columns
  · have hplaced : other.placed t.columns row = row := if_pos heq
    rw [hplaced] at hwidth ⊢
    constructor
    case width => exact hwidth
    case kept =>
      intro j name hname _ _
      have hlt : j < row.length := hwidth ▸ (List.getElem?_eq_some_iff.1 hname).1
      exact ⟨row[j], List.getElem?_eq_getElem hlt, j, heq ▸ hname, List.getElem?_eq_getElem hlt⟩
    case lost => exact fun j name _ _ hne _ => absurd heq hne
    case filled => exact fun j name hname hnot => absurd (heq ▸ List.mem_of_getElem? hname) hnot
  · have hplaced : other.placed t.columns row = other.rearranged row [] t.columns := if_neg heq
    rw [hplaced] at hwidth ⊢
    constructor
    case width => exact hwidth
    case kept =>
      intro j name hname hmem hfirst
      obtain ⟨cell, hcell⟩ := Option.isSome_iff_exists.1 (isSome_cell? hrow hmem)
      refine ⟨cell, ?_, holds_of_cell? hcell⟩
      simp [getElem?_rearranged_eq, hname, hfirst.resolve_left heq, hcell]
    case lost =>
      intro j name hname _ _ hearlier
      simp [getElem?_rearranged_eq, hname, hearlier]
    case filled =>
      intro j name hname hnot
      simp [getElem?_rearranged_eq, hname, cell?, index?_of_not_mem hnot]

/-- Appending keeps the header and the rows of a table and adds one row for each row of the other
one, in order. The cells of a row reach every column with their name when the headers are equal, and
the first such column when they differ; null stands under names that the other table lacks, and in
the later columns of a repeated name when the headers differ. -/
theorem append_cells (h : t.Rectangular) (hother : other.Rectangular) :
    (t.append other).columns = t.columns ∧ (t.append other).Rectangular ∧
      ∃ added, (t.append other).rows = t.rows ++ added ∧
        List.Forall₂ (t.Appended other) other.rows added := by
  have hadded : List.Forall₂ (t.Appended other) other.rows
      (other.rows.map (other.placed t.columns)) := by
    rw [List.forall₂_map_right_iff, List.forall₂_same]
    exact fun row hrow => appended_placed (hother row hrow)
  refine ⟨columns_append t other, fun row hrow => ?_, _, rows_append t other, hadded⟩
  rw [columns_append]
  rw [rows_append, List.mem_append] at hrow
  rcases hrow with hrow | hrow
  · exact h row hrow
  · obtain ⟨source, hsource, rfl⟩ := List.mem_map.1 hrow
    exact length_placed (hother source hsource)

/-- A table with one column is appended to one that repeats its name: the second column with the
name gets null, although the row has a cell under it. -/
theorem append_cells_repeated :
    (Table.ofColumns ["a", "a"]).Rectangular ∧ (Table.mk ["a"] [[.int 1]]).Rectangular ∧
      ∃ new, ((Table.ofColumns ["a", "a"]).append ⟨["a"], [[.int 1]]⟩).rows = [new] ∧
        new[1]? = some .null ∧ (Table.mk ["a"] [[.int 1]]).Holds [.int 1] "a" (.int 1) := by
  have h : (Table.ofColumns ["a", "a"]).Rectangular := by simp [Rectangular, ofColumns]
  have hother : (Table.mk ["a"] [[.int 1]]).Rectangular := by simp [Rectangular]
  obtain ⟨-, -, added, hrows, hadded⟩ := append_cells h hother
  obtain ⟨new, rest, hnew, hrest, rfl⟩ := List.forall₂_cons_left_iff.1 hadded
  cases hrest
  have hlost : new[1]? = some .null := hnew.lost 1 "a" rfl (by decide) (by decide) (by decide)
  exact ⟨h, hother, new, hrows, hlost, 0, rfl, rfl⟩

end AnnotationQuery.Table
