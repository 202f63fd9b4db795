import AnnotationQuery.Text.Joined

/-!
# Paths

A path names an attribute as seen from the anchor of a query: a tier, then steps to other
annotations, then a property. Its written form joins the steps with points.
-/

namespace AnnotationQuery

/-- A path, step by step (`AttributePath`). -/
structure Path where
  steps : List String
deriving DecidableEq, Repr

namespace Path

/-- The path written with points between its steps; empty steps are dropped. -/
def ofText (text : String) : Path :=
  ⟨(text.splitOn ".").filter (· ≠ "")⟩

/-- The written form of a path. -/
def text (p : Path) : String :=
  Text.joined "." p.steps

/-- The path with one more step. -/
def join (p : Path) (step : String) : Path :=
  ⟨p.steps ++ [step]⟩

def first? (p : Path) : Option String :=
  p.steps.head?

def last? (p : Path) : Option String :=
  p.steps.getLast?

end Path

end AnnotationQuery
