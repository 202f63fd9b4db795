import AnnotationQuery.Partition.Store

/-!
# Sequential execution

Partitions are executed one after another in listing order. The cancellation is looked at before
each one; the first partition that fails ends the execution.
-/

namespace AnnotationQuery

/-- A partition value and the statement that is executed for it. -/
abbrev Partition := String × CompiledStatement

namespace Store

/-- Executes partitions in order and gives their tables (`execute_sequential`). -/
def runSequential (store : Store σ) :
    List Partition → σ → Bool → Outcome σ (List Table)
  | [], state, cancelled => ⟨.ok [], state, cancelled⟩
  | (value, statement) :: rest, state, cancelled =>
    if cancelled then ⟨.error (.cancelled value), state, cancelled⟩
    else
      let answer := store.execute statement state
      match answer.result with
      | .error e => ⟨.error (.partition value e), answer.state, answer.cancels⟩
      | .ok table =>
        (runSequential store rest answer.state answer.cancels).map (table :: ·)

end Store

end AnnotationQuery
