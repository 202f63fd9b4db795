import AnnotationQuery.Filter.Basic
import AnnotationQuery.Hierarchy.Basic
import AnnotationQuery.Json.Location
import AnnotationQuery.Value.Literal

/-!
# Errors

Everything that can go wrong, by cause. Each kind of cause has its explanation in `message`.

* `QueryError.isCompileError`: the errors that arise before anything reaches the store.
-/

namespace AnnotationQuery

/-- Why a path names nothing, or nothing that can stand where the path stands. -/
inductive PathFault where
  | empty
  | sameTier (tier : String)
  | afterEnd (step : String)
  | mixedAxes
  | notPauseTier (pauseTier : String)
  | noEntityProperty (entity : EntityKind) (name : String)
  | noSubannotationProperty (attached name : String)
  | unknownStep (step tier : String)
  | notProperty (step tier : String)
  | bareLowerTier (tier : String)
  | lowerTierInFilter
  | subsetInOutput
  | orderNotGrouped
  | orderNotReturned
deriving DecidableEq, Repr

def PathFault.message : PathFault → String
  | empty => "path is empty"
  | sameTier tier => "already at tier '" ++ tier ++ "', use previous/following to move"
  | afterEnd step => "unexpected step '" ++ step ++ "' after terminal step"
  | mixedAxes => "can not mix pause-skipping and regular precedence"
  | notPauseTier tier => "pause-skipping steps are only valid on tier '" ++ tier ++ "'"
  | noEntityProperty entity name => "no " ++ entity.word ++ " property '" ++ name ++ "'"
  | noSubannotationProperty attached name =>
    "sub-annotation '" ++ attached ++ "' has no property '" ++ name ++ "'"
  | unknownStep step tier =>
    "'" ++ step ++ "' is not a tier, property or sub-annotation of '" ++ tier ++ "'"
  | notProperty step tier => "'" ++ step ++ "' is not a property of '" ++ tier ++ "'"
  | bareLowerTier tier => "lower tier '" ++ tier ++ "' must be followed by a property"
  | lowerTierInFilter => "lower tier references can only be used in columns"
  | subsetInOutput => "subset membership can only be filtered on"
  | orderNotGrouped =>
    "in aggregate mode results can only be ordered by a grouping column or an aggregate"
  | orderNotReturned => "distinct results can only be ordered by a returned column"

/-- Why a mutation can not be carried out. -/
inductive MutationFault where
  | noProperty
  | conflict (side : Side) (key : String)
  | noLabelToSet
  | noLabelToRemove
deriving DecidableEq, Repr

def MutationFault.message : MutationFault → String
  | noProperty => "property mutation without any property"
  | conflict side key => side.word ++ " property '" ++ key ++ "' is assigned conflicting values"
  | noLabelToSet => "set labels without any label"
  | noLabelToRemove => "remove labels without any label"

/-- Why a filter is malformed. -/
inductive FilterFault where
  | unknownOperator (text : String)
  | unknownAlignment (text : String)
  | badPattern (path : Path)
  | patternNotText (path : Path)
  | listRequired (operator : Operator) (path : Path)
  | subsetNotNamed (filter : Filter)
  | notSubset (name tier : String)
  | subsetOperator (filter : Filter)
deriving Repr

def FilterFault.message : FilterFault → String
  | unknownOperator text => "Unknown operator '" ++ text ++ "'"
  | unknownAlignment text => "Unknown alignment relation '" ++ text ++ "'"
  | badPattern path => "Invalid regular expression in filter on " ++ path.text
  | patternNotText path =>
    "Regular expression filter on " ++ path.text ++ " requires a string pattern"
  | listRequired operator path =>
    "Operator '" ++ operator.text ++ "' on " ++ path.text ++ " requires a list value"
  | subsetNotNamed filter =>
    "Subset filter " ++ filter.text ++ " must compare against a subset name"
  | notSubset name tier => "'" ++ name ++ "' is not a subset of tier '" ++ tier ++ "'"
  | subsetOperator filter =>
    "Subset filter " ++ filter.text ++ " only supports '==' and '!=', not '" ++
      filter.operator.text ++ "'"

/-- What is wrong with a hierarchy. -/
inductive HierarchyFault where
  | noCorpus
  | noTier
  | repeatedTier (tier : String)
  | notContained (lower higher : String)
deriving DecidableEq, Repr

def HierarchyFault.message : HierarchyFault → String
  | noCorpus => "Hierarchy has no corpus name"
  | noTier => "Hierarchy has no tiers"
  | repeatedTier tier => "Tier '" ++ tier ++ "' is declared twice"
  | notContained lower higher =>
    "Tier '" ++ lower ++ "' is not contained in tier '" ++ higher ++ "'"

/-- Why a file can not be opened. -/
inductive FileFault where
  | notFound
  | notDirectory
  | isDirectory
  | nameTooLong
  | nulInName
deriving DecidableEq, Repr

def FileFault.message : FileFault → String
  | notFound => "No such file or directory (os error 2)"
  | notDirectory => "Not a directory (os error 20)"
  | isDirectory => "Is a directory (os error 21)"
  | nameTooLong => "File name too long (os error 36)"
  | nulInName => "file name contained an unexpected NUL byte"

/-- Everything that can go wrong. -/
inductive QueryError where
  | unknownTier (name : String)
  | invalidPath (path : Path) (fault : PathFault)
  | invalidMutation (fault : MutationFault)
  | invalidFilter (fault : FilterFault)
  | hierarchy (fault : HierarchyFault)
  | store (explanation : String)
  | partition (value : String) (cause : QueryError)
  | cancelled (value : String)
  | literal (text : String) (fault : LiteralFault)
  | file (fault : FileFault) (name context : String)
  | json (location : Location) (name context : String)
  | rowWidth (cells columns : Nat)
  | fileRowWidth (name : String) (cells columns : Nat)
  | recordWidth (context : String)
deriving Repr

namespace QueryError

/-- The text of an error. -/
def message : QueryError → String
  | unknownTier name => "UnknownTierError: No such tier: " ++ name
  | invalidPath path fault =>
    "InvalidPathError: Unable to resolve " ++ path.text ++ ": " ++ fault.message
  | invalidMutation fault => "InvalidMutationCombinationError: " ++ fault.message
  | invalidFilter fault => "InvalidFilterError: " ++ fault.message
  | hierarchy fault => "HierarchyError: " ++ fault.message
  | store explanation => "StoreError: " ++ explanation
  | partition value cause =>
    "PartitionError: Partition '" ++ value ++ "' failed: " ++ cause.message
  | cancelled value => "Cancelled: Execution cancelled before partition '" ++ value ++ "'"
  | literal text fault =>
    "LiteralError: Unable to parse literal " ++ text ++ ": " ++ fault.message
  | file fault name context => "IOError: " ++ fault.message ++ " (" ++ name ++ "): " ++ context
  | json location name context => "JsonError: " ++ location.text ++ " (" ++ name ++ "): " ++ context
  | rowWidth cells columns =>
    "SerializationError: Row has " ++ toString cells ++ " cells, table has " ++ toString columns ++
      " columns"
  | fileRowWidth name cells columns =>
    "SerializationError: Row in " ++ name ++ " has " ++ toString cells ++ " cells, table has " ++
      toString columns ++ " columns"
  | recordWidth context => "CsvError: record of unequal width (" ++ context ++ ")"

/-- Does the error arise before anything reaches the store (`is_compile_error`)? -/
def isCompileError : QueryError → Bool
  | unknownTier _ | invalidPath _ _ | invalidMutation _ | invalidFilter _ | hierarchy _ => true
  | _ => false

end QueryError

end AnnotationQuery
