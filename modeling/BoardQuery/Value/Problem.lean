import BoardQuery.Fault

/-!
# Problems of field values

Why a value cannot be written into a column. Each problem has one message.
-/

namespace BoardQuery

/-- Why a value is rejected. -/
inductive ValueProblem where
  | required
  | notText
  | tooLong (limit : Json)
  | notNumber
  | belowMinimum (bound : Json)
  | aboveMaximum (bound : Json)
  | notChoice (value : Json) (choices : List String)
  | notUser
  | notUsers
  | unknownUser (id : String)
  | notLabels
  | tooManyLabels (limit : Json)
  | notDate
  | notTruthValue
  | notWebAddress
  | notEmail
  | notPhone

def ValueProblem.message : ValueProblem → String
  | .required => "This field is required."
  | .notText => "Value must be a string."
  | .tooLong limit => "Value may not be greater than " ++ limit.display ++ " characters."
  | .notNumber => "Value must be a number."
  | .belowMinimum bound => "Value must be at least " ++ bound.display ++ "."
  | .aboveMaximum bound => "Value may not be greater than " ++ bound.display ++ "."
  | .notChoice value choices =>
    "Invalid value '" ++ value.display ++ "'. Must be one of: " ++ joinWith ", " choices
  | .notUser => "Value must be a user id."
  | .notUsers => "Value must be a user id or a list of user ids."
  | .unknownUser id => "User '" ++ id ++ "' does not exist."
  | .notLabels => "Value must be a list of labels."
  | .tooManyLabels limit => "No more than " ++ limit.display ++ " labels are allowed."
  | .notDate => "Value is not a valid date."
  | .notTruthValue => "Value must be true or false."
  | .notWebAddress => "Value must be a valid URL."
  | .notEmail => "Value must be a valid email address."
  | .notPhone => "Value must be a valid phone number."

/-- Why a value has no canonical form: it is rejected, or the rules themselves fail on it. -/
inductive Rejection where
  | problems (list : List ValueProblem)
  | fault (f : Fault)

/-- The text of a list of problems found at a path. -/
def problemsText (path : String) (list : List ValueProblem) : String :=
  path ++ ": " ++ joinWith "; " (list.map (·.message))

end BoardQuery
