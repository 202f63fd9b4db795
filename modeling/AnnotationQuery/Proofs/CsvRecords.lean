import AnnotationQuery.Proofs.MergedTable
import AnnotationQuery.Table.Csv
import Mathlib.Tactic.Common

/-!
# Records read back

A reader of comma separated values goes through a text character by character. Commas end fields and
line feeds end records, except between quotes, where a doubled quote stands for one; an empty line
is no record. What is exported for a table is read as its header and its rows: a field with a
special character stands between quotes with its own quotes doubled, and a record that is one empty
field stands between quotes so that its line is not empty.

Results:
* `Csv.foldl_fieldChars`: a field is read as it is, whatever it holds.
* `Csv.foldl_recordChars`: a record with at least one field is read.
* `Table.read_csv`: which tables are exported, and what a reader recovers.
-/

namespace AnnotationQuery

namespace Csv

/-! ## A reader -/

/-- Where a reader stands. -/
inductive Place where
  /-- In front of a field. -/
  | start
  /-- In a field that is not quoted. -/
  | plain
  /-- Between the quotes of a field. -/
  | quoted
  /-- Behind a quote that ends a field or is the first one of two. -/
  | closed
deriving DecidableEq, Repr

/-- What a reader has read: the records, the fields of the record it is in, and the field it is
in. -/
structure Reader where
  place : Place
  field : List Char
  fields : List (List Char)
  records : List (List (List Char))
deriving Repr

namespace Reader

/-- In front of a record. -/
def between (records : List (List (List Char))) : Reader :=
  ⟨.start, [], [], records⟩

def add (r : Reader) (place : Place) (c : Char) : Reader :=
  { r with place, field := r.field ++ [c] }

def endField (r : Reader) : Reader :=
  { r with place := .start, field := [], fields := r.fields ++ [r.field] }

/-- Ends a record, unless its line is empty. -/
def endRecord (r : Reader) : Reader :=
  if r.place = .start ∧ r.fields = [] then r else between (r.records ++ [r.fields ++ [r.field]])

/-- Reads a character that is not quoted. -/
def readPlain (r : Reader) (c : Char) : Reader :=
  if c = ',' then r.endField
  else if c = '\n' then r.endRecord
  else r.add .plain c

/-- Reads a character. -/
def read (r : Reader) (c : Char) : Reader :=
  match r.place with
  | .start => if c = quote then { r with place := .quoted } else r.readPlain c
  | .plain => r.readPlain c
  | .quoted => if c = quote then { r with place := .closed } else r.add .quoted c
  | .closed => if c = quote then r.add .quoted c else r.readPlain c

end Reader

/-- The records of a text. -/
def records (text : String) : List (List String) :=
  (text.toList.foldl Reader.read (.between [])).endRecord.records.map (·.map String.ofList)

/-! ## Fields -/

variable {before : List (List Char)} {done : List (List (List Char))}

/-- Away from the quotes only a quote is not plain. -/
theorem read_of_ne_quote {r : Reader} {c : Char} (hplace : r.place ≠ .quoted) (hc : c ≠ quote) :
    r.read c = r.readPlain c := by
  unfold Reader.read
  cases hp : r.place with
  | start => exact if_neg hc
  | plain => rfl
  | quoted => exact absurd hp hplace
  | closed => exact if_neg hc

theorem readPlain_feed {r : Reader} (h : ¬ (r.place = .start ∧ r.fields = [])) :
    r.readPlain '\n' = .between (r.records ++ [r.fields ++ [r.field]]) :=
  if_neg h

theorem read_ordinary {r : Reader} {c : Char} (hplace : r.place ≠ .quoted)
    (hc : isSpecial c = false) : r.read c = r.add .plain c := by
  simp only [isSpecial, Bool.or_eq_false_iff, beq_eq_false_iff_ne] at hc
  obtain ⟨⟨⟨hcomma, hquote⟩, -⟩, hfeed⟩ := hc
  rw [read_of_ne_quote hplace hquote, Reader.readPlain, if_neg hcomma, if_neg hfeed]

theorem foldl_plain {cs : List Char} (hcs : ∀ c ∈ cs, isSpecial c = false) (field : List Char) :
    cs.foldl Reader.read ⟨.plain, field, before, done⟩ =
      ⟨.plain, field ++ cs, before, done⟩ := by
  induction cs generalizing field with
  | nil => simp
  | cons c cs ih =>
    rw [List.foldl_cons, read_ordinary (by simp) (hcs c List.mem_cons_self)]
    show cs.foldl Reader.read ⟨.plain, field ++ [c], before, done⟩ = _
    rw [ih (fun d hd => hcs d (List.mem_cons_of_mem c hd)), List.append_assoc]
    rfl

theorem foldl_doubled (cs field : List Char) :
    (doubled cs).foldl Reader.read ⟨.quoted, field, before, done⟩ =
      ⟨.quoted, field ++ cs, before, done⟩ := by
  induction cs generalizing field with
  | nil => simp [doubled]
  | cons c cs ih =>
    by_cases hc : c = quote
    · -- the first quote leaves the quotes, the second one comes back
      subst hc
      show (doubled cs).foldl Reader.read ⟨.quoted, field ++ [quote], before, done⟩ = _
      rw [ih, List.append_assoc]
      rfl
    · rw [doubled, if_neg hc, List.foldl_cons]
      have hread : Reader.read ⟨.quoted, field, before, done⟩ c =
          ⟨.quoted, field ++ [c], before, done⟩ := if_neg hc
      rw [hread, ih, List.append_assoc]
      rfl

/-- Where a reader stands behind a field. -/
def placeBehind (field : List Char) : Place :=
  if field.any isSpecial then .closed else if field = [] then .start else .plain

/-- A written field is read, and the reader is not between quotes behind it. -/
theorem foldl_fieldChars (field : List Char) :
    (fieldChars field).foldl Reader.read ⟨.start, [], before, done⟩ =
      ⟨placeBehind field, field, before, done⟩ := by
  unfold fieldChars placeBehind
  by_cases hspecial : field.any isSpecial = true
  · rw [if_pos hspecial, if_pos hspecial, quotedField, List.foldl_append]
    show [quote].foldl Reader.read
      ((doubled field).foldl Reader.read ⟨.quoted, [], before, done⟩) = _
    rw [foldl_doubled]
    rfl
  · rw [if_neg hspecial, if_neg hspecial]
    have hplain : ∀ c ∈ field, isSpecial c = false := by simpa using hspecial
    cases field with
    | nil => rfl
    | cons c cs =>
      rw [List.foldl_cons, read_ordinary (by simp) (hplain c List.mem_cons_self)]
      show cs.foldl Reader.read ⟨.plain, [c], before, done⟩ = _
      rw [foldl_plain fun d hd => hplain d (List.mem_cons_of_mem c hd)]
      rfl

theorem placeBehind_ne_quoted (field : List Char) : placeBehind field ≠ .quoted := by
  unfold placeBehind
  split
  · simp
  · split <;> simp

theorem placeBehind_eq_start {field : List Char} (h : placeBehind field = .start) : field = [] := by
  unfold placeBehind at h
  split at h
  · cases h
  · split at h
    · assumption
    · cases h

/-! ## Records -/

/-- The fields of a record with commas between them. -/
def lineChars (fields : List (List Char)) : List Char :=
  [','].intercalate (fields.map fieldChars)

theorem lineChars_singleton (field : List Char) : lineChars [field] = fieldChars field := by
  simp [lineChars, List.intercalate]

theorem lineChars_cons_cons (field next : List Char) (rest : List (List Char)) :
    lineChars (field :: next :: rest) = fieldChars field ++ ',' :: lineChars (next :: rest) := by
  simp [lineChars, List.intercalate]

theorem fieldChars_eq_nil {field : List Char} : fieldChars field = [] ↔ field = [] := by
  unfold fieldChars
  split
  · rename_i hspecial
    refine iff_of_false (by simp [quotedField]) ?_
    rintro rfl
    cases hspecial
  · rfl

/-- Only a record of one empty field has an empty line. -/
theorem lineChars_eq_nil {field : List Char} {rest : List (List Char)} :
    lineChars (field :: rest) = [] ↔ field = [] ∧ rest = [] := by
  cases rest with
  | nil => simp [lineChars_singleton, fieldChars_eq_nil]
  | cons next rest => simp [lineChars_cons_cons]

/-- A line that is not empty is read as a record. Fields may stand before it. -/
theorem foldl_lineChars {field : List Char} {rest : List (List Char)}
    (h : before = [] → lineChars (field :: rest) ≠ []) :
    (lineChars (field :: rest) ++ ['\n']).foldl Reader.read ⟨.start, [], before, done⟩ =
      .between (done ++ [before ++ field :: rest]) := by
  induction rest generalizing field before with
  | nil =>
    rw [lineChars_singleton, List.foldl_append, foldl_fieldChars, List.foldl_cons, List.foldl_nil,
      read_of_ne_quote (placeBehind_ne_quoted field) (by decide)]
    refine readPlain_feed ?_
    rintro ⟨hstart, hbefore⟩
    exact h hbefore (lineChars_eq_nil.2 ⟨placeBehind_eq_start hstart, rfl⟩)
  | cons next rest ih =>
    rw [lineChars_cons_cons, List.append_assoc, List.foldl_append, foldl_fieldChars,
      List.cons_append, List.foldl_cons,
      read_of_ne_quote (placeBehind_ne_quoted field) (by decide)]
    show (lineChars (next :: rest) ++ ['\n']).foldl Reader.read
      ⟨.start, [], before ++ [field], done⟩ = _
    rw [ih (by simp), List.append_assoc]
    rfl

/-- A record with at least one field is read. -/
theorem foldl_recordChars {fields : List (List Char)} (h : fields ≠ []) :
    (recordChars fields).foldl Reader.read (.between done) = .between (done ++ [fields]) := by
  obtain ⟨field, rest, rfl⟩ := List.exists_cons_of_ne_nil h
  show ((if (lineChars (field :: rest)).isEmpty then quotedField []
    else lineChars (field :: rest)) ++ ['\n']).foldl _ _ = _
  split
  · rename_i hempty
    obtain ⟨rfl, rfl⟩ := lineChars_eq_nil.1 (List.isEmpty_iff.1 hempty)
    rfl
  · rename_i hline
    exact foldl_lineChars fun _ => fun hnil => hline (List.isEmpty_iff.2 hnil)

theorem foldl_records {rows : List (List (List Char))} (h : ∀ fields ∈ rows, fields ≠ []) :
    (rows.flatMap recordChars).foldl Reader.read (.between done) = .between (done ++ rows) := by
  induction rows generalizing done with
  | nil => simp
  | cons fields rows ih =>
    rw [List.flatMap_cons, List.foldl_append, foldl_recordChars (h fields List.mem_cons_self),
      ih fun row hrow => h row (List.mem_cons_of_mem fields hrow), List.append_assoc]
    rfl

end Csv

/-! ## Tables -/

namespace Table

variable {t : Table}

theorem csv_eq_ok {text : String} :
    t.csv = .ok text ↔ t.Rectangular ∧
      text = String.ofList
        ((t.columns.map String.toList :: t.rows.map fields).flatMap Csv.recordChars) := by
  have hall : (t.rows.all (·.length == t.columns.length)) = true ↔ t.Rectangular := by
    simp [Rectangular]
  unfold csv
  split
  · rename_i h
    rw [Except.ok.injEq, eq_comm, ← hall]
    simp only [h, true_and]
  · rename_i h
    exact iff_of_false (by simp) fun hboth => h (hall.2 hboth.1)

theorem map_ofList_fields (row : List Value) :
    (fields row).map String.ofList = row.map Value.display := by
  rw [fields, List.map_map]
  rfl

/-- A table is exported if each row has one cell for each column, and only then. If there is a
column, a reader recovers the header and the texts of all cells from what is exported. -/
theorem read_csv (t : Table) :
    ((∃ text, t.csv = .ok text) ↔ t.Rectangular) ∧
      ∀ text, t.csv = .ok text → t.columns ≠ [] →
        Csv.records text = t.columns :: t.rows.map fun row => row.map Value.display := by
  constructor
  · constructor
    · rintro ⟨text, htext⟩
      exact (csv_eq_ok.1 htext).1
    · exact fun hrect => ⟨_, csv_eq_ok.2 ⟨hrect, rfl⟩⟩
  · intro text htext hcolumns
    obtain ⟨hrect, rfl⟩ := csv_eq_ok.1 htext
    have hfields : ∀ record ∈ t.columns.map String.toList :: t.rows.map fields,
        record ≠ [] := by
      simp only [List.forall_mem_cons, List.forall_mem_map]
      refine ⟨by simpa using hcolumns, fun row hrow hnil => hcolumns ?_⟩
      have hwidth := hrect row hrow
      rw [List.map_eq_nil_iff.1 hnil] at hwidth
      exact List.length_eq_zero_iff.1 hwidth.symm
    rw [Csv.records, String.toList_ofList, Csv.foldl_records hfields]
    show (t.columns.map String.toList :: t.rows.map fields).map (·.map String.ofList) = _
    rw [List.map_cons, List.map_map, List.map_map]
    congr 1
    · simp [Function.comp_def]
    · exact List.map_congr_left fun row _ => map_ofList_fields row

/-- One column without a name over two cells without a text, and names and cells with commas, quotes
and line breaks. -/
theorem read_csv_awkward :
    (∃ text, (Table.mk [""] [[.null], [.list []]]).csv = .ok text ∧
        Csv.records text = [[""], [""], [""]]) ∧
      ∃ text, (Table.mk ["a,b", "\""] [[.string "\r\n", .list [.string "\"", .null]]]).csv =
          .ok text ∧
        Csv.records text = [["a,b", "\""], ["\r\n", "\"|"]] := by
  have hempty : (Table.mk [""] [[.null], [.list []]]).Rectangular := by simp [Rectangular]
  have hspecial :
      (Table.mk ["a,b", "\""] [[.string "\r\n", .list [.string "\"", .null]]]).Rectangular := by
    simp [Rectangular]
  obtain ⟨first, hfirst⟩ := (read_csv _).1.2 hempty
  obtain ⟨second, hsecond⟩ := (read_csv _).1.2 hspecial
  refine ⟨⟨first, hfirst, ?_⟩, second, hsecond, ?_⟩
  · exact (read_csv _).2 first hfirst (by simp)
  · exact (read_csv _).2 second hsecond (by simp)

end Table

end AnnotationQuery
