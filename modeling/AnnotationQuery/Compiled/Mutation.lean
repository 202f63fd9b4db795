import AnnotationQuery.Compiled.Parameter
import AnnotationQuery.Corpus
import AnnotationQuery.Node.Basic

/-!
# Mutations

A mutation changes the anchor or its type node. Of several assignments to one property the first
one counts, and the others may not differ from it; assigning null removes the property.

* `Intent.mutationFault?`: why a mutation can not be carried out.
* `writeAssignments`: what is set, each value being the next parameter or in place.
* `PropertyUpdates.setItems`, `PropertyUpdates.removeItems`: what is set, with the values in place,
  and what is removed.
-/

namespace AnnotationQuery

/-! ## Checks -/

/-- The first key that is assigned a value again that differs from an earlier one. -/
def firstConflict? (earlier : List (String × Value)) :
    List (String × Value) → Option String
  | [] => none
  | (key, value) :: rest =>
    if earlier.any fun (k, v) => k == key && !v.equals value then some key
    else firstConflict? (earlier ++ [(key, value)]) rest

/-- Why property updates can not be carried out. -/
def PropertyUpdates.fault? (u : PropertyUpdates) : Option MutationFault :=
  if u.isEmpty then some .noProperty
  else
    ((firstConflict? [] u.token).map (.conflict .token)).or
      ((firstConflict? [] u.type).map (.conflict .type))

/-- Why a mutation can not be carried out (`check_mutation`). -/
def Intent.mutationFault? : Intent → Option MutationFault
  | .setProperties u => u.fault?
  | .setLabels u => if u.isEmpty then some .noLabelToSet else none
  | .removeLabels u => if u.isEmpty then some .noLabelToRemove else none
  | .project _ | .delete | .cache => none

/-! ## Items -/

/-- The assignments that are the first ones to their key (`deduplicated`). -/
def firstAssignments (seen : List String) : List (String × Value) → List (String × Value)
  | [] => []
  | (key, value) :: rest =>
    if seen.contains key then firstAssignments seen rest
    else (key, value) :: firstAssignments (key :: seen) rest

/-- The node that carries a side of the anchor. -/
def Reference.sideAlias (r : Reference) : Side → String
  | .token => r.aliasName
  | .type => r.typeAlias

/-- Writes the assignments of values other than null (`set_properties`). -/
def writeAssignments (parameterize : Bool) (parameters : Parameters) :
    List (String × String × Value) → List SetItem × Parameters
  | [] => ([], parameters)
  | (aliasName, key, value) :: rest =>
    if value.isNull then writeAssignments parameterize parameters rest
    else
      let (operand, parameters) := parameters.value parameterize value
      let (items, parameters) := writeAssignments parameterize parameters rest
      (.property aliasName key operand :: items, parameters)

namespace PropertyUpdates

/-- The assignments that count, with the aliases that they go to, the token side first. -/
def effective (u : PropertyUpdates) (anchor : Reference) : List (String × String × Value) :=
  (firstAssignments [] u.token).map (fun a => (anchor.sideAlias .token, a)) ++
    (firstAssignments [] u.type).map fun a => (anchor.sideAlias .type, a)

/-- The properties that are set, with their values in place. -/
def setItems (u : PropertyUpdates) (anchor : Reference) : List SetItem :=
  (writeAssignments false [] (u.effective anchor)).1

/-- The properties that are removed. -/
def removeItems (u : PropertyUpdates) (anchor : Reference) : List RemoveItem :=
  (u.effective anchor).filterMap fun (aliasName, key, value) =>
    if value.isNull then some (.property aliasName key) else none

end PropertyUpdates

/-- The labels that are set or removed, each once, with the aliases that they go to
(`label_items`). -/
def LabelUpdates.items (u : LabelUpdates) (anchor : Reference) : List (String × String) :=
  (u.token.map (anchor.sideAlias .token, ·) ++ u.type.map (anchor.sideAlias .type, ·)).eraseDups

end AnnotationQuery
