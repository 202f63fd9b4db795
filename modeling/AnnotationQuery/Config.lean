/-!
# Configuration

How queries are compiled and executed.
-/

namespace AnnotationQuery

/-- The configuration of a corpus. -/
structure Config where
  /-- Where relative file names are looked up first. -/
  workdir : Option String
  /-- Are literal values passed as parameters instead of being written into the statement? -/
  parameterize : Bool
  /-- The tier whose annotations may be pauses. -/
  pauseTier : String
  /-- Are partitions executed in parallel? -/
  parallelPartitions : Bool
deriving DecidableEq, Repr

namespace Config

/-- The configuration of a corpus that has none. -/
def default : Config :=
  ⟨none, true, "word", false⟩

end Config

end AnnotationQuery
