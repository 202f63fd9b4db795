/-!
# Joined texts and sorted names

* `joined`: texts with a separator between them.
* `sortedNames`: names in the order of their characters, each once.
-/

namespace AnnotationQuery.Text

/-- The texts with a separator between each two. -/
def joined (separator : String) : List String → String
  | [] => ""
  | [t] => t
  | t :: ts => t ++ separator ++ joined separator ts

/-- The names in ascending order, each once. -/
def sortedNames (names : List String) : List String :=
  names.eraseDups.mergeSort (· ≤ ·)

theorem joined_cons_cons (separator t u : String) (ts : List String) :
    joined separator (t :: u :: ts) = t ++ separator ++ joined separator (u :: ts) := rfl

theorem mem_sortedNames {name : String} {names : List String} :
    name ∈ sortedNames names ↔ name ∈ names := by
  simp [sortedNames, List.mem_mergeSort]

end AnnotationQuery.Text
