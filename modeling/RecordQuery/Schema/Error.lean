/-!
# `RecordQuery.Schema.Error` — what a schema has against a filter or an ordering
-/

namespace RecordQuery

/-- Why a filter or an ordering does not fit a schema. Paths, types, operators and literals are
given as the messages show them. -/
inductive SchemaError where
  | unknownProperty (record property : String)
  | navigateThroughCollection (path : String)
  | notARecord (path member : String)
  | notACollection (path modifier : String)
  | scalarElements (path : String)
  | notComparable (path type : String)
  | nullOperator (op : String)
  | unsupportedOperator (op type path : String)
  | caseInsensitiveNonString (path type : String)
  | conversion (literal type path : String)
  | nullNotAllowed (path : String)
  | invalidOrderingKey (path : String)
deriving DecidableEq, Inhabited

def SchemaError.message : SchemaError → String
  | unknownProperty record property => "unknown property '" ++ property ++ "' on " ++ record
  | navigateThroughCollection path =>
    "property '" ++ path ++ "' is a collection and cannot be navigated with '.'"
  | notARecord path member =>
    "property '" ++ path ++ "' is not a record and has no member '" ++ member ++ "'"
  | notACollection path modifier =>
    "'" ++ modifier ++ "' requires a collection, but '" ++ path ++ "' is not one"
  | scalarElements path => "quantifier predicate on '" ++ path ++ "' requires record elements"
  | notComparable path type =>
    "property '" ++ path ++ "' is a " ++ type ++ " and cannot be compared directly"
  | nullOperator op => "operator '" ++ op ++ "' cannot be used with null"
  | unsupportedOperator op type path =>
    "operator '" ++ op ++ "' is not supported for " ++ type ++ " property '" ++ path ++ "'"
  | caseInsensitiveNonString path type =>
    "case-insensitive comparison requires a string property, '" ++ path ++ "' is " ++ type
  | conversion literal type path =>
    "cannot convert " ++ literal ++ " to " ++ type ++ " for property '" ++ path ++ "'"
  | nullNotAllowed path => "null is not allowed for non-nullable property '" ++ path ++ "'"
  | invalidOrderingKey path =>
    "ordering key '" ++ path ++ "' must resolve to a scalar property"

end RecordQuery
