import AnnotationQuery.Table.Basic
import Mathlib.Algebra.GroupWithZero.Nat
import Mathlib.Data.List.Basic

/-!
# Merged tables

Merging puts the rows of all tables under one header. A row whose table has that header is taken as
it is; the cells of any other row are put where the header has their names. Of the columns with one
name only the first counts, in the header as in the row's own table, so that looking a name up gives
the same cell before and after.

Results:
* `Table.cell?_placed`: a placed row has its cells under their names.
* `Table.rows_merge`: the rows of a merged table are the placed rows of the tables in listing order.
* `Table.merge_keeps_rows`: no row and no named cell is lost.
-/

namespace AnnotationQuery.Table

/-- Each row has one cell for each column. -/
def Rectangular (t : Table) : Prop :=
  ∀ row ∈ t.rows, row.length = t.columns.length

/-- The rows of tables in listing order, each as its table and its number there. -/
def listing (tables : List Table) : List (Table × Nat) :=
  tables.flatMap fun t => (List.range t.rows.length).map (t, ·)

/-! ## Cells -/

/-- The cell of a row under a column. -/
def cell? (t : Table) (row : List Value) (name : String) : Option Value :=
  (t.index? name).bind (row[·]?)

theorem get?_eq_cell? (t : Table) (i : Nat) (name : String) :
    t.get? i name = t.rows[i]?.bind (t.cell? · name) := by
  unfold get? cell?
  cases t.index? name <;> cases t.rows[i]? <;> rfl

theorem index?_of_mem {t : Table} {name : String} (h : name ∈ t.columns) :
    t.index? name = some (t.columns.idxOf name) :=
  List.findIdx?_eq_some_iff_findIdx_eq.2 ⟨List.idxOf_lt_length_of_mem h, rfl⟩

theorem index?_of_not_mem {t : Table} {name : String} (h : name ∉ t.columns) :
    t.index? name = none := by
  rw [index?, List.findIdx?_eq_none_iff]
  intro column hcolumn
  exact beq_false_of_ne fun heq => h (heq ▸ hcolumn)

theorem isSome_cell? {t : Table} {row : List Value} {name : String}
    (hrow : row.length = t.columns.length) (h : name ∈ t.columns) :
    (t.cell? row name).isSome = true := by
  have hlt : t.columns.idxOf name < row.length := hrow ▸ List.idxOf_lt_length_of_mem h
  rw [cell?, index?_of_mem h, Option.bind_some, List.getElem?_eq_getElem hlt]
  rfl

/-! ## Placing rows -/

theorem length_rearranged (t : Table) (row : List Value) (seen names : List String) :
    (t.rearranged row seen names).length = names.length := by
  induction names generalizing seen with
  | nil => rfl
  | cons name names ih => rw [rearranged, List.length_cons, List.length_cons, ih]

/-- The first place of a name takes the cell, unless the name was seen before. -/
theorem getElem?_rearranged (t : Table) (row : List Value) {seen names : List String}
    {name : String} (h : name ∈ names) (hseen : name ∉ seen) :
    (t.rearranged row seen names)[names.idxOf name]? = some ((t.cell? row name).getD .null) := by
  induction names generalizing seen with
  | nil => cases h
  | cons other names ih =>
    by_cases heq : other = name
    · subst heq
      simp [rearranged, hseen, cell?]
    · have hmem : name ∈ names := (List.mem_cons.1 h).resolve_left fun h => heq h.symm
      have hseen' : name ∉ other :: seen := fun h =>
        (List.mem_cons.1 h).elim (fun h => heq h.symm) hseen
      rw [List.idxOf_cons_ne names heq, rearranged, List.getElem?_cons_succ]
      exact ih hmem hseen'

/-- A row of a table under a header. -/
def placed (t : Table) (header : List String) (row : List Value) : List Value :=
  if t.columns = header then row else t.rearranged row [] header

section placed

variable {t m : Table} {row : List Value} {name : String}

theorem length_placed (hrow : row.length = t.columns.length) :
    (t.placed m.columns row).length = m.columns.length := by
  unfold placed
  split
  · rename_i heq
    rw [hrow, heq]
  · exact t.length_rearranged row [] m.columns

/-- A placed row has its cells under their names, and null under names that its table lacks. -/
theorem cell?_placed (hrow : row.length = t.columns.length) (hname : name ∈ m.columns) :
    m.cell? (t.placed m.columns row) name =
      if name ∈ t.columns then t.cell? row name else some .null := by
  unfold placed
  split
  · rename_i heq
    rw [if_pos (heq ▸ hname), cell?, cell?, index?, index?, heq]
  · rw [cell?, index?_of_mem hname, Option.bind_some,
      getElem?_rearranged t row hname List.not_mem_nil]
    split
    · rename_i hmem
      obtain ⟨cell, hcell⟩ := Option.isSome_iff_exists.1 (isSome_cell? hrow hmem)
      rw [hcell, Option.getD_some]
    · rename_i hmem
      rw [cell?, index?_of_not_mem hmem]
      rfl

end placed

/-! ## Merging -/

theorem rows_append (t other : Table) :
    (t.append other).rows = t.rows ++ other.rows.map (other.placed t.columns) := by
  unfold append placed
  split
  · simp
  · rfl

theorem foldl_append (tables : List Table) (t : Table) :
    (tables.foldl append t).columns = t.columns ∧
      (tables.foldl append t).rows =
        t.rows ++ tables.flatMap fun other => other.rows.map (other.placed t.columns) := by
  induction tables generalizing t with
  | nil => simp
  | cons other tables ih =>
    obtain ⟨hcolumns, hrows⟩ := ih (t.append other)
    rw [List.foldl_cons, List.flatMap_cons]
    refine ⟨hcolumns.trans (columns_append t other), ?_⟩
    rw [hrows, rows_append, columns_append, List.append_assoc]

/-- Tables without rows add no rows. -/
theorem flatMap_filled {α : Type} (tables : List Table) (f : Table → List Value → α) :
    (tables.filter (!·.isEmpty)).flatMap (fun t => t.rows.map (f t)) =
      tables.flatMap fun t => t.rows.map (f t) := by
  induction tables with
  | nil => rfl
  | cons t tables ih =>
    rw [List.filter_cons, List.flatMap_cons, ← ih]
    cases hempty : t.isEmpty with
    | true => rw [List.isEmpty_iff.1 hempty, List.map_nil, List.nil_append]; rfl
    | false => rw [Bool.not_false, if_pos rfl, List.flatMap_cons]

theorem columns_merge (tables : List Table) (fallback : List String) :
    (merge tables fallback).columns =
      ((tables.find? (!·.isEmpty)).map (·.columns)).getD fallback := by
  rw [merge, (foldl_append _ _).1, List.head?_filter]
  rfl

/-- The rows of a merged table are those of all tables in listing order, placed under its header. -/
theorem rows_merge_eq_flatMap (tables : List Table) (fallback : List String) :
    (merge tables fallback).rows = tables.flatMap fun t =>
      t.rows.map (t.placed (merge tables fallback).columns) := by
  rw [merge, (foldl_append _ _).2, (foldl_append _ _).1, flatMap_filled]
  rfl

/-- The same by the numbers of the rows. -/
theorem rows_merge (tables : List Table) (fallback : List String) :
    (merge tables fallback).rows = (listing tables).map fun origin =>
      origin.1.placed (merge tables fallback).columns (origin.1.rows[origin.2]?.getD []) := by
  have hrows (t : Table) : t.rows = (List.range t.rows.length).map (t.rows[·]?.getD []) := by
    refine List.ext_getElem (by simp) fun k h h' => ?_
    simp [h]
  rw [rows_merge_eq_flatMap, listing, List.map_flatMap]
  refine congrArg (tables.flatMap ·) (funext fun t => ?_)
  conv_lhs => rw [hrows t]
  simp only [List.map_map]
  rfl

theorem length_listing (tables : List Table) :
    (listing tables).length = (tables.map (·.rows.length)).sum := by
  simp [listing, List.length_flatMap]

/-- What a listed row is: one of the tables has it at that number. -/
theorem mem_listing {tables : List Table} {t : Table} {k : Nat} :
    (t, k) ∈ listing tables ↔ t ∈ tables ∧ k < t.rows.length := by
  simp only [listing, List.mem_flatMap, List.mem_map, List.mem_range, Prod.mk.injEq]
  constructor
  · rintro ⟨t, ht, k, hk, rfl, rfl⟩
    exact ⟨ht, hk⟩
  · rintro ⟨ht, hk⟩
    exact ⟨t, ht, k, hk, rfl, rfl⟩

/-- The header of a merged table is that of the first table with rows. Its rows are those of all
tables in listing order, and under every name of the header they have the cell that they had in
their table, or null if that has no such column. Under an equal header they are unchanged. -/
theorem merge_keeps_rows {tables : List Table} (h : ∀ t ∈ tables, t.Rectangular)
    (fallback : List String) :
    (merge tables fallback).columns =
        ((tables.find? (!·.isEmpty)).map (·.columns)).getD fallback ∧
      (merge tables fallback).rows.length = (tables.map (·.rows.length)).sum ∧
      (merge tables fallback).Rectangular ∧
      (merge tables fallback).rows.length = (listing tables).length ∧
      ∀ i t k, (listing tables)[i]? = some (t, k) →
        (∀ name ∈ (merge tables fallback).columns, (merge tables fallback).get? i name =
          if name ∈ t.columns then t.get? k name else some .null) ∧
        (t.columns = (merge tables fallback).columns →
          (merge tables fallback).rows[i]? = t.rows[k]?) := by
  have hrows := rows_merge tables fallback
  have hlength : (merge tables fallback).rows.length = (listing tables).length := by
    rw [hrows, List.length_map]
  refine ⟨columns_merge tables fallback, hlength.trans (length_listing tables), ?_, hlength,
    fun i t k hi => ?_⟩
  · intro row hrow
    rw [hrows] at hrow
    obtain ⟨⟨t, k⟩, horigin, rfl⟩ := List.mem_map.1 hrow
    obtain ⟨ht, hk⟩ := mem_listing.1 horigin
    rw [List.getElem?_eq_getElem hk, Option.getD_some]
    exact length_placed (h t ht _ (List.getElem_mem hk))
  · obtain ⟨ht, hk⟩ := mem_listing.1 (List.mem_of_getElem? hi)
    have hwidth := h t ht _ (List.getElem_mem hk)
    have hrow : (merge tables fallback).rows[i]? =
        some (t.placed (merge tables fallback).columns t.rows[k]) := by
      rw [hrows, List.getElem?_map, hi, Option.map_some, List.getElem?_eq_getElem hk,
        Option.getD_some]
    constructor
    · intro name hname
      rw [get?_eq_cell?, get?_eq_cell?, hrow, List.getElem?_eq_getElem hk, Option.bind_some,
        Option.bind_some, cell?_placed hwidth hname]
    · intro hcolumns
      rw [hrow, List.getElem?_eq_getElem hk, placed, if_pos hcolumns]

/-- A table without rows, one that repeats a column, and one with other columns in another order. -/
def shuffled : List Table :=
  [⟨["x"], []⟩, ⟨["a", "b", "a"], [[.int 1, .int 2, .int 3]]⟩,
    ⟨["b", "c", "a", "b"], [[.int 4, .int 5, .int 6, .int 7]]⟩, ⟨["c"], [[.int 8]]⟩]

theorem merge_keeps_rows_shuffled :
    (∀ t ∈ shuffled, t.Rectangular) ∧ (merge shuffled []).columns = ["a", "b", "a"] ∧
      (merge shuffled []).rows.length = 3 ∧ (merge shuffled []).get? 0 "a" = some (.int 1) ∧
      (merge shuffled []).get? 1 "a" = some (.int 6) ∧
      (merge shuffled []).get? 1 "b" = some (.int 4) ∧
      (merge shuffled []).get? 2 "b" = some .null := by
  have hwidths : ∀ t ∈ shuffled, t.Rectangular := by simp [shuffled, Rectangular]
  obtain ⟨hcolumns, hlength, -, -, hcells⟩ := merge_keeps_rows hwidths []
  have hheader : (merge shuffled []).columns = ["a", "b", "a"] := hcolumns
  rw [hheader] at hcells
  refine ⟨hwidths, hheader, hlength, ?_, ?_, ?_, ?_⟩
  · exact (hcells 0 _ 0 rfl).1 "a" (by decide)
  · exact (hcells 1 _ 0 rfl).1 "a" (by decide)
  · exact (hcells 1 _ 0 rfl).1 "b" (by decide)
  · exact (hcells 2 _ 0 rfl).1 "b" (by decide)

end AnnotationQuery.Table
