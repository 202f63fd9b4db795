import AnnotationQuery.Config.Json
import AnnotationQuery.Corpus
import AnnotationQuery.File.Tree
import AnnotationQuery.Hierarchy.Json
import AnnotationQuery.Table.Csv
import AnnotationQuery.Table.Json

/-!
# Loading and saving

Configurations, hierarchies and tables are loaded from JSON files; tables are saved as JSON or CSV.
A file name may be written as a `file://` address. A relative name stands for a file in the working
directory if there is one, otherwise it is used as it is. Of a JSON file only the first value is
read.

* `FileTree.resolveName`: the path for a file name.
* `Hierarchy.load`, `Corpus.load`, `Table.load`, `Config.load`, `Table.saveJson`, `Table.saveCsv`.
-/

namespace AnnotationQuery

namespace FileTree

/-- The file name behind an address. -/
def stripScheme (name : String) : String :=
  if name.startsWith "file://" then (name.drop 7).toString else name

/-- A relative path in a directory. -/
def joinPath (directory path : String) : String :=
  if directory = "" ∨ directory.endsWith "/" then directory ++ path
  else directory ++ "/" ++ path

/-- The path for a file name: relative names are looked up in the working directory first
(`get_filepath`). -/
def resolveName (t : FileTree) (workdir : Option String) (name : String) : String :=
  let path := stripScheme name
  if path.startsWith "/" then path
  else
    match workdir with
    | none => path
    | some directory =>
      let candidate := joinPath directory path
      if t.hasFile candidate then candidate else path

/-- Decodes the value in front of a JSON file (`from_json_file`). -/
def load (t : FileTree) (decode : Decoder α) (workdir : Option String) (name context : String) :
    Except QueryError α := do
  let path := t.resolveName workdir name
  let text ← (t.read path).mapError (.file · path "Opening file for reading failed")
  match text with
  | none => throw (.json [] name context)
  | some text => (Decoder.frontOfText decode text).mapError (.json · name context)

/-- Writes a text to a file (`open_file_writer`). -/
def save (t : FileTree) (workdir : Option String) (name text : String) :
    Except QueryError FileTree :=
  let path := t.resolveName workdir name
  (t.write path text).mapError (.file · path "Opening file for writing failed")

end FileTree

/-- Loads a configuration. -/
def Config.load (t : FileTree) (name : String) : Except QueryError Config :=
  t.load Config.decode Config.default.workdir name "Reading config from file"

/-- Loads a hierarchy, which has to be valid. -/
def Hierarchy.load (t : FileTree) (workdir : Option String) (name : String) :
    Except QueryError Hierarchy := do
  let h ← t.load Hierarchy.decode workdir name "Reading hierarchy from file"
  h.validate
  return h

/-- Loads the hierarchy of a corpus with a configuration. -/
def Corpus.load (t : FileTree) (config : Config) (name : String) : Except QueryError Corpus := do
  return ⟨← Hierarchy.load t config.workdir name, config⟩

namespace Table

/-- Loads a table; its rows have to be as wide as the header. -/
def load (t : FileTree) (workdir : Option String) (name : String) : Except QueryError Table := do
  (← t.load decode workdir name "Reading result table from file").checkWidths name

/-- Saves a table as indented JSON (`to_json_file`). -/
def saveJson (table : Table) (t : FileTree) (workdir : Option String) (name : String) :
    Except QueryError FileTree :=
  t.save workdir name table.json.prettyText

/-- Saves a table as CSV (`to_csv_file`). The file is opened before the table is looked at. -/
def saveCsv (table : Table) (t : FileTree) (workdir : Option String) (name : String) :
    Except QueryError FileTree := do
  let _ ← t.save workdir name ""
  t.save workdir name (← table.csv)

end Table

end AnnotationQuery
