import AnnotationQuery.File.Load
import AnnotationQuery.Proofs.MergedTable
import AnnotationQuery.Proofs.SavedFile
import AnnotationQuery.Proofs.ValueJson

/-!
# Tables stored as JSON

A table is written as an object with its columns and its rows, whatever its cells hold, and what is
read back is checked for rows of another width than the header. Columns and cells come back as they
were written, so a table comes back as itself when every row is as wide as the header, every float
is finite and its digits read back, and no list is nested too deep: of the arrays and objects that
reading allows to be nested, three stand around a cell, one is the cell and each list takes two.

* `Table.decode_eq_ok`: a table is decoded cell by cell.
* `Table.load_stored`: loading decodes a stored table and checks its rows.
* `Table.load_json`: which tables read back, and what becomes of the others.
-/

namespace AnnotationQuery

namespace Table

open Decoder

variable {t u : Table} {depth : Nat} {tree : FileTree} {workdir : Option String} {name : String}

/-! ## Decoding -/

/-- The table and the arrays of its rows and of a row stand around each cell. -/
theorem nesting_eq : nesting = 124 + 3 :=
  rfl

/-- The floats of the cells, at every depth. -/
def floats (t : Table) : List Binary64 :=
  t.rows.flatMap fun row => row.flatMap Value.floats

theorem depth_json_le {n : Nat} :
    t.json.depth ≤ n + 3 ↔ ∀ row ∈ t.rows, ∀ cell ∈ row, cell.json.depth ≤ n := by
  have hcolumns : (Json.ofList .string t.columns).depth ≤ n + 2 :=
    Json.depth_ofList_le.mpr fun _ _ => Nat.zero_le _
  have hrows : ∀ rows : Json, (Json.object [("columns", .ofList .string t.columns),
      ("rows", rows)]).depth ≤ n + 3 ↔ rows.depth ≤ n + 2 := by
    intro rows
    simp only [Json.depth, Json.depthMembers]
    omega
  rw [json, hrows, Json.depth_ofList_le]
  simp only [Json.depth_ofList_le]

/-- The sources of the cells. -/
def cellSources (t : Table) : List Source :=
  t.rows.map fun row => .array (row.map fun cell => cell.json.source) true

theorem source_json (t : Table) :
    t.json.source =
      .object [(some "columns", .array (t.columns.map fun c => .string (some c)) true),
        (some "rows", .array t.cellSources true)] true := by
  simp [json, Json.ofList, Json.source, Json.sourceMembers, Json.sourceItems_eq_map, cellSources,
    Function.comp_def]

theorem decode_columns (columns : List String) (depth : Nat) :
    list string (depth + 1) (.array (columns.map fun c => .string (some c)) true) =
      .ok columns := by
  rw [list, listFrom_eq_ok]
  refine ⟨rfl, ?_⟩
  rw [List.forall₂_map_left_iff, List.forall₂_same]
  exact fun _ _ => rfl

/-- Both fields of a table are required; each is decoded one level below the table. -/
theorem decode_object (depth : Nat) (columns rows : Source) :
    decode (depth + 1) (.object [(some "columns", columns), (some "rows", rows)] true) =
      within (.key "columns") (list string depth columns) >>= fun cs =>
        within (.key "rows") (list (list Value.decode) depth rows) >>= fun rs => .ok ⟨cs, rs⟩ := by
  have hfields : decode (depth + 1)
      (.object [(some "columns", columns), (some "rows", rows)] true) =
      within (.key "columns") ((list string depth columns).map
            fun cs (t : Table) => (⟨cs, t.rows⟩ : Table)) >>= fun f =>
        within (.key "rows") ((list (list Value.decode) depth rows).map
            fun rs (t : Table) => (⟨t.columns, rs⟩ : Table)) >>= fun g =>
          .ok (g (f (ofColumns []))) :=
    rfl
  rw [hfields]
  cases list string depth columns with
  | error l => rfl
  | ok cs => cases list (list Value.decode) depth rows <;> rfl

/-- The columns are always decoded; a table is decoded as soon as its rows are, cell by cell. -/
theorem decode_eq_ok :
    decode (depth + 3) t.json.source = .ok u ↔
      u.columns = t.columns ∧ List.Forall₂ (List.Forall₂ fun cell cell' =>
        Value.decodeFrom false depth cell.json.source = .ok cell') t.rows u.rows := by
  obtain ⟨columns, rows⟩ := u
  rw [source_json, decode_object, decode_columns]
  simp only [bind_eq_ok, within_eq_ok, list, listFrom_eq_ok, cellSources,
    List.forall₂_map_left_iff, true_and, Except.ok.injEq]
  constructor
  · rintro ⟨cs, rfl, rs, hrows, heq⟩
    obtain ⟨rfl, rfl⟩ := Table.mk.inj heq
    exact ⟨rfl, hrows⟩
  · rintro ⟨rfl, hrows⟩
    exact ⟨_, rfl, _, hrows, rfl⟩

/-- A table is decoded as it was written. -/
theorem decode_json (hdepth : t.json.depth ≤ depth + 3) (hfloats : ∀ x ∈ t.floats, x.Rereads) :
    decode (depth + 3) t.json.source = .ok t := by
  have hcells : ∀ row ∈ t.rows, ∀ cell ∈ row,
      Value.decodeFrom false depth cell.json.source = .ok cell := by
    intro row hrow cell hcell
    refine Value.decode_json cell (depth_json_le.mp hdepth row hrow cell hcell) fun x hx => ?_
    exact hfloats x (List.mem_flatMap_of_mem hrow (List.mem_flatMap_of_mem hcell hx))
  rw [decode_eq_ok, List.forall₂_same]
  exact ⟨rfl, fun row hrow => List.forall₂_same.mpr (hcells row hrow)⟩

/-- What is decoded was not nested too deep and had no float without a number in JSON. -/
theorem fits_of_decode (h : decode (depth + 3) t.json.source = .ok u) :
    t.json.depth ≤ depth + 3 ∧ ∀ x ∈ t.floats, x.isFinite = true := by
  have hcells : ∀ row ∈ t.rows, ∀ cell ∈ row,
      cell.json.depth ≤ depth ∧ ∀ x ∈ cell.floats, x.isFinite = true := by
    intro row hrow cell hcell
    obtain ⟨row', -, hrow'⟩ := exists_right_of_forall₂ (decode_eq_ok.mp h).2 hrow
    obtain ⟨cell', -, hcell'⟩ := exists_right_of_forall₂ hrow' hcell
    exact Value.fits_of_decode cell hcell'
  refine ⟨depth_json_le.mpr fun row hrow cell hcell => (hcells row hrow cell hcell).1, ?_⟩
  intro x hx
  obtain ⟨row, hrow, hx⟩ := List.mem_flatMap.mp hx
  obtain ⟨cell, hcell, hx⟩ := List.mem_flatMap.mp hx
  exact (hcells row hrow cell hcell).2 x hx

/-! ## Widths -/

theorem checkWidths_ragged (h : ¬ t.Rectangular) :
    ∃ row ∈ t.rows, row.length ≠ t.columns.length ∧
      checkWidths name t = .error (.fileRowWidth name row.length t.columns.length) := by
  unfold checkWidths
  cases hfind : t.rows.find? (·.length != t.columns.length) with
  | some row =>
    have hwidth := List.find?_some hfind
    exact ⟨row, List.mem_of_find?_eq_some hfind, by simpa using hwidth, rfl⟩
  | none =>
    refine absurd (fun row hrow => ?_) h
    simpa using List.find?_eq_none.mp hfind row hrow

/-- A decoded row has the width of the row that was written. -/
theorem rectangular_of_decode (h : decode (depth + 3) t.json.source = .ok u)
    (hu : u.Rectangular) : t.Rectangular := by
  obtain ⟨hcolumns, hrows⟩ := decode_eq_ok.mp h
  intro row hrow
  obtain ⟨row', hrow', hcells⟩ := exists_right_of_forall₂ hrows hrow
  rw [hcells.length_eq, hu row' hrow', hcolumns]

theorem checkWidths_rectangular (h : t.Rectangular) : checkWidths name t = .ok t := by
  have hfind : t.rows.find? (·.length != t.columns.length) = none := by
    simpa [List.find?_eq_none, Rectangular] using h
  rw [checkWidths, hfind]

/-! ## Files -/

/-- The file under a name holds the table as JSON, compact or indented. -/
def Stored (t : Table) (tree : FileTree) (workdir : Option String) (name : String) : Prop :=
  tree.read (tree.resolveName workdir name) = .ok (some t.json.compactText) ∨
    tree.read (tree.resolveName workdir name) = .ok (some t.json.prettyText)

theorem load_stored (h : t.Stored tree workdir name) :
    load tree workdir name =
      (decode nesting t.json.source).mapError
        (.json · name "Reading result table from file") >>= checkWidths name := by
  rw [load]
  rcases h with h | h
  · rw [FileTree.load_of_read h, frontOfText, Source.ofText_compactText]
  · rw [FileTree.load_of_read h, frontOfText, Source.ofText_prettyText]

/-- A table is saved wherever a file can be opened for writing. -/
theorem exists_stored (t : Table) {opened : FileTree}
    (h : tree.save workdir name "" = .ok opened) :
    ∃ saved, t.saveJson tree workdir name = .ok saved ∧ t.Stored saved workdir name := by
  obtain ⟨saved, hsaved⟩ := FileTree.exists_save h t.json.prettyText
  exact ⟨saved, hsaved, .inr (FileTree.read_save hsaved)⟩

/-- What is not decoded is an error in the JSON text. -/
theorem load_unfit (h : t.Stored tree workdir name)
    (hunfit : ¬ (t.json.depth ≤ nesting ∧ ∀ x ∈ t.floats, x.isFinite = true)) :
    ∃ l, load tree workdir name = .error (.json l name "Reading result table from file") := by
  rw [load_stored h]
  cases hdecode : decode nesting t.json.source with
  | error l => exact ⟨l, rfl⟩
  | ok u =>
    rw [nesting_eq] at hdecode hunfit
    exact absurd (fits_of_decode hdecode) hunfit

/-- A ragged row is an error of its width, unless something before it is an error in the text. -/
theorem load_ragged (h : t.Stored tree workdir name) (hragged : ¬ t.Rectangular) :
    (∃ row ∈ t.rows, row.length ≠ t.columns.length ∧
        load tree workdir name = .error (.fileRowWidth name row.length t.columns.length)) ∨
      ∃ l, load tree workdir name = .error (.json l name "Reading result table from file") := by
  rw [load_stored h]
  cases hdecode : decode nesting t.json.source with
  | error l => exact .inr ⟨l, rfl⟩
  | ok u =>
    rw [nesting_eq] at hdecode
    obtain ⟨hcolumns, hrows⟩ := decode_eq_ok.mp hdecode
    obtain ⟨row', hrow', hne, hcheck⟩ :=
      checkWidths_ragged fun hu => hragged (rectangular_of_decode hdecode hu)
    obtain ⟨row, hrow, hcells⟩ := exists_left_of_forall₂ hrows hrow'
    rw [hcolumns, ← hcells.length_eq] at hne hcheck
    exact .inl ⟨row, hrow, hne, hcheck⟩

/-- The text of a table can be written whatever cells it holds. What is read back from it is the
table itself just when the rows are as wide as the header, the lists are not nested too deep and
every float is finite, provided that the finite floats read back from their digits. A ragged row, a
float that is not finite and lists nested too deep are errors. -/
theorem load_json (t : Table) (workdir : Option String) (name : String) :
    (∀ tree opened, tree.save workdir name "" = .ok opened →
      ∃ saved, t.saveJson tree workdir name = .ok saved ∧ t.Stored saved workdir name) ∧
    ∀ tree, t.Stored tree workdir name →
      ((∀ x ∈ t.floats, x.isFinite = true → x.Rereads) →
        (load tree workdir name = .ok t ↔
          t.Rectangular ∧ t.json.depth ≤ nesting ∧ ∀ x ∈ t.floats, x.isFinite = true)) ∧
      (¬ t.Rectangular →
        (∃ row ∈ t.rows, row.length ≠ t.columns.length ∧
            load tree workdir name = .error (.fileRowWidth name row.length t.columns.length)) ∨
          ∃ l, load tree workdir name = .error (.json l name "Reading result table from file")) ∧
      ((∃ x ∈ t.floats, x.isFinite = false) ∨ nesting < t.json.depth →
        ∃ l, load tree workdir name = .error (.json l name "Reading result table from file")) := by
  refine ⟨fun tree opened h => t.exists_stored h, fun tree h => ⟨fun hdigits => ?_, ?_, ?_⟩⟩
  · constructor
    · intro hload
      refine ⟨?_, ?_⟩
      · by_contra hragged
        rcases load_ragged h hragged with ⟨row, -, -, hwidth⟩ | ⟨l, hjson⟩
        · rw [hload] at hwidth
          cases hwidth
        · rw [hload] at hjson
          cases hjson
      · by_contra hunfit
        obtain ⟨l, hjson⟩ := load_unfit h hunfit
        rw [hload] at hjson
        cases hjson
    · rintro ⟨hrectangular, hdepth, hfinite⟩
      have hdecode : decode nesting t.json.source = .ok t :=
        decode_json hdepth fun x hx => hdigits x hx (hfinite x hx)
      rw [load_stored h, hdecode]
      exact checkWidths_rectangular hrectangular
  · exact load_ragged h
  · intro hunfit
    refine load_unfit h ?_
    rintro ⟨hdepth, hfinite⟩
    rcases hunfit with ⟨x, hx, hinfinite⟩ | hdeep
    · rw [hfinite x hx] at hinfinite
      cases hinfinite
    · exact absurd hdepth (Nat.not_le.mpr hdeep)

/-! ## A table that reads back and one that does not -/

/-- A tree with one file, `t`. -/
def file (text : String) : FileTree :=
  ⟨[(["t"], some text)], []⟩

theorem locate_t (entries : List (List String × Option String)) :
    FileTree.locate ⟨entries, []⟩ "t" = .ok (["t"], false) := by
  have hnul : "t".toList.contains '\x00' = false := by decide
  have hlong : ¬ "t".utf8ByteSize > 4095 := by decide +kernel
  have hsplit : "t".splitOn "/" = ["t"] := by
    rw [String.splitOn, if_neg (by decide), String.splitOnAux, if_neg (by decide +kernel),
      if_neg (by decide +kernel), String.splitOnAux, if_pos (by decide +kernel)]
    decide +kernel
  have hrelative : "t".startsWith "/" = false := by decide +kernel
  have hname : ¬ "t".utf8ByteSize > 255 := by decide +kernel
  have hfollow : FileTree.follow ⟨entries, []⟩ [] ["t"] = .ok ["t"] :=
    FileTree.follow_cons.mpr ⟨rfl, hname, rfl⟩
  simp only [FileTree.locate, hnul, hlong, hsplit, hrelative, List.reverse_singleton]
  show FileTree.follow ⟨entries, []⟩ [] ["t"] >>= (fun place => pure (place, false)) = _
  rw [hfollow]
  rfl

theorem stored_file (t : Table) : t.Stored (file t.json.prettyText) none "t" := by
  have hname : (file t.json.prettyText).resolveName none "t" = "t" := by
    have hrelative : "t".startsWith "/" = false := by decide +kernel
    have hscheme : FileTree.stripScheme "t" = "t" := by decide +kernel
    simp [FileTree.resolveName, hscheme, hrelative]
  refine .inr ?_
  rw [hname]
  exact FileTree.read_eq_ok (locate_t _) rfl

/-- Escaped characters, nested lists, a negative zero and a repeated column. -/
def awkward : Table :=
  ⟨["a\"b", "a\"b"],
    [[.list [.string "tab\tback\\slash \x01 ŋ", .list [], .list [.null, .int (-3)]], .bool true],
      [.float (.finite true .zero), .float (.ofDecimal false ⟨15, -1⟩)]]⟩

theorem load_json_awkward :
    awkward.Stored (file awkward.json.prettyText) none "t" ∧
      (∀ x ∈ awkward.floats, x.isFinite = true → x.Rereads) ∧
      load (file awkward.json.prettyText) none "t" = .ok awkward := by
  have hstored := awkward.stored_file
  have hdigits : ∀ x ∈ awkward.floats, x.isFinite = true → x.Rereads := by
    unfold Binary64.Rereads
    decide +kernel
  have hfits : awkward.Rectangular ∧ awkward.json.depth ≤ nesting ∧
      ∀ x ∈ awkward.floats, x.isFinite = true := by
    unfold Rectangular
    decide +kernel
  exact ⟨hstored, hdigits, (((load_json awkward none "t").2 _ hstored).1 hdigits).mpr hfits⟩

/-- Null inside lists that are nested in one another. -/
def nestedNull : Nat → Value
  | 0 => .null
  | n + 1 => .list [nestedNull n]

theorem depth_nestedNull (n : Nat) : (nestedNull n).json.depth = 2 * n + 1 := by
  induction n with
  | zero => rfl
  | succ n ih =>
    rw [nestedNull, Value.depth_json_list, Value.jsonAll_eq_map]
    simp [Json.depthItems, ih]
    omega

/-- A table with one cell, null inside sixty-two lists, is as wide as its header and holds no float,
but does not read back. -/
theorem nestedNull_unread :
    Rectangular ⟨["a"], [[nestedNull 62]]⟩ ∧ floats ⟨["a"], [[nestedNull 62]]⟩ = [] ∧
      ∃ l, load (file (json ⟨["a"], [[nestedNull 62]]⟩).prettyText) none "t" =
        .error (.json l "t" "Reading result table from file") := by
  refine ⟨by unfold Rectangular; decide, by decide, load_unfit (stored_file _) ?_⟩
  rintro ⟨hdepth, -⟩
  have hcell := depth_json_le.mp hdepth _ List.mem_cons_self _ List.mem_cons_self
  rw [depth_nestedNull] at hcell
  exact absurd hcell (by decide)

end Table

end AnnotationQuery
