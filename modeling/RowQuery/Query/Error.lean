import RowQuery.Text.Quoted

/-!
# Why a query is refused

A parse error is a value that does not fit the grammar of its option; a validation error is a well
formed query for something that may not be asked; a backend error comes from the target. None of
them goes away when the same request is sent again.
-/
namespace RowQuery

open Text (quote)

inductive ParseError
  | invalidUrl (detail : String)
  | invalidInteger (option value : String)
  | invalidDirection (field direction : String)
  | emptySelectField
  | emptyOrderByField
  | malformedOrderBy (clause : String)
  | limitExceeded (what : String) (max : UInt64)
deriving DecidableEq, Repr

inductive ValidationError
  | hiddenFieldSelected (recordType : String) (fields : List String)
  | unknownField (option field : String)
deriving DecidableEq, Repr

inductive QueryError
  | parse (error : ParseError)
  | validation (error : ValidationError)
  | backend (detail : String)
deriving DecidableEq, Repr

namespace ParseError

def message : ParseError → String
  | invalidUrl detail => s!"invalid URL: {detail}"
  | invalidInteger option value =>
    s!"invalid {option} value: {quote value} is not a non-negative integer"
  | invalidDirection field direction =>
    s!"invalid $orderby direction {quote direction} for field {quote field}; expected asc or desc"
  | emptySelectField => "$select contains an empty field name"
  | emptyOrderByField => "$orderby contains a clause without a field name"
  | malformedOrderBy clause => s!"malformed $orderby clause: {quote clause}"
  | limitExceeded what max => s!"{what} exceeds the configured maximum of {max}"

end ParseError

namespace ValidationError

def message : ValidationError → String
  | hiddenFieldSelected recordType fields =>
    "one of the fields in the $select query string value is hidden for record type " ++
      quote recordType ++ ": " ++ ", ".intercalate fields
  | unknownField option field => s!"unknown field {quote field} in {option}"

end ValidationError

namespace QueryError

def message : QueryError → String
  | parse error => error.message
  | validation error => error.message
  | backend detail => s!"query backend error: {detail}"

def isRetryable (_ : QueryError) : Bool := false

def asParse? : QueryError → Option ParseError
  | parse error => some error
  | _ => none

def asValidation? : QueryError → Option ValidationError
  | validation error => some error
  | _ => none

end QueryError
end RowQuery
