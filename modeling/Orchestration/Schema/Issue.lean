/-!
# Issues

What can be wrong with a piece of data that is read into a record, and where in the data it is.
-/

namespace Orchestration

/-- A step on the way to a place in the data. -/
inductive Locus where
  | field (name : String)
  | index (position : Nat)
deriving DecidableEq, Repr

/-- What is wrong at a place. -/
inductive Defect where
  | missing
  | stringType
  | enumeration
  | literal
  | listType
  | dictType
  | modelType
  | boolType
  | boolParsing
  | intType
  | intParsing
  | intParsingSize
  | intFromFloat
  | finiteNumber
  | floatType
  | floatParsing
  | momentType
  | momentParsing
  | momentFromDate
  | pathType
  | value
deriving DecidableEq, Repr

/-- The name under which a defect is reported. -/
def Defect.code : Defect → String
  | .missing => "missing"
  | .stringType => "string_type"
  | .enumeration => "enum"
  | .literal => "literal_error"
  | .listType => "list_type"
  | .dictType => "dict_type"
  | .modelType => "model_type"
  | .boolType => "bool_type"
  | .boolParsing => "bool_parsing"
  | .intType => "int_type"
  | .intParsing => "int_parsing"
  | .intParsingSize => "int_parsing_size"
  | .intFromFloat => "int_from_float"
  | .finiteNumber => "finite_number"
  | .floatType => "float_type"
  | .floatParsing => "float_parsing"
  | .momentType => "datetime_type"
  | .momentParsing => "datetime_parsing"
  | .momentFromDate => "datetime_from_date_parsing"
  | .pathType => "path_type"
  | .value => "value_error"

/-- A defect and the way to it. -/
structure Issue where
  loc : List Locus
  defect : Defect
deriving DecidableEq, Repr

end Orchestration
