import AnnotationQuery.Compiled.Generation
import AnnotationQuery.Table.Basic

/-!
# Graph stores

A graph store lists the speakers and discourses of a corpus and executes statements. It may have a
state that its answers depend on, and while it executes a statement someone may cancel the whole
execution.
-/

namespace AnnotationQuery

/-- What executing a statement leads to. -/
structure Answer (σ : Type) where
  result : Except QueryError Table
  state : σ
  /-- Was the execution cancelled meanwhile? -/
  cancels : Bool

/-- A graph store with states of type `σ` (`GraphStore`). -/
structure Store (σ : Type) where
  /-- The names of the speakers or discourses. -/
  names : EntityKind → Except QueryError (List String)
  execute : CompiledStatement → σ → Answer σ

/-- A result with the state of the store and of the cancellation behind it. -/
structure Outcome (σ α : Type) where
  result : Except QueryError α
  state : σ
  cancelled : Bool

namespace Outcome

/-- Applies a function to a result. -/
def map (f : α → β) (o : Outcome σ α) : Outcome σ β :=
  ⟨o.result.map f, o.state, o.cancelled⟩

end Outcome

/-- Compiles and executes a query (`execute`). The store's own error is passed on. -/
def Corpus.execute (c : Corpus) (q : Query) (store : Store σ) (state : σ) (cancelled : Bool) :
    Outcome σ Table :=
  match c.compile q with
  | .error e => ⟨.error e, state, cancelled⟩
  | .ok statement =>
    let answer := store.execute statement state
    ⟨answer.result, answer.state, cancelled || answer.cancels⟩

end AnnotationQuery
