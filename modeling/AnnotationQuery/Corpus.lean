import AnnotationQuery.Path.Resolve
import AnnotationQuery.Query.Basic

/-!
# Corpora

A corpus is a hierarchy together with a configuration.

* `Corpus.ofHierarchy`: a corpus with the default configuration; the hierarchy has to be valid.
* `Corpus.query`: a query on one of the tiers.
-/

namespace AnnotationQuery

/-- A hierarchy and the configuration that queries on it are compiled with. -/
structure Corpus where
  hierarchy : Hierarchy
  config : Config
deriving DecidableEq, Repr

namespace Corpus

/-- The corpus of a valid hierarchy, with the default configuration. -/
def ofHierarchy (h : Hierarchy) : Except QueryError Corpus := do
  h.validate
  return ⟨h, .default⟩

def name (c : Corpus) : String :=
  c.hierarchy.corpus

/-- A query for all annotations of a tier that has to exist. -/
def query (c : Corpus) (tier : String) : Except QueryError Query := do
  return .ofTier (← c.hierarchy.tier tier).name

/-- The anchor of queries on a tier. -/
def anchor (c : Corpus) (tier : String) : Reference :=
  .anchor tier c.hierarchy.corpus

/-- Resolves a path as seen from the anchor of queries on a tier. -/
def resolve (c : Corpus) (tier : String) (path : Path) : Except QueryError Resolved :=
  path.resolve c.hierarchy c.config tier

end Corpus

end AnnotationQuery
