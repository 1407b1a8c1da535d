import BoardQuery.Json.Display

/-!
# Configurations

The settings under which the service runs, and the check that the environment states those a
configuration needs.
-/

namespace BoardQuery

/-- A named set of settings. -/
inductive Configuration where
  | development
  | production
  | testing
  deriving DecidableEq

def Configuration.ofName? : String → Option Configuration
  | "development" => some .development
  | "production" => some .production
  | "testing" => some .testing
  | _ => none

/-- Why an environment does not do for a configuration. -/
inductive SettingsProblem where
  | missing (names : List String)
  | missingPolicy (stated : String)
  deriving DecidableEq

def SettingsProblem.message : SettingsProblem → String
  | .missing names => "Missing required environment variables: " ++ joinWith ", " names
  | .missingPolicy stated =>
    "FILTER_SORT_MISSING_VALUES must be 'first' or 'last', got '" ++ stated ++ "'"

/-- What an environment, a list of variables, lacks. The testing configuration needs nothing. -/
def Configuration.problem? (c : Configuration) (env : List (String × String)) :
    Option SettingsProblem :=
  let missing := ["SECRET_KEY", "DATABASE_URL"].filter fun n => (env.lookup n).all (· == "")
  let policy := (env.lookup "FILTER_SORT_MISSING_VALUES").getD "last"
  if c == .testing then none
  else if !missing.isEmpty then some (.missing missing)
  else if policy != "first" && policy != "last" then some (.missingPolicy policy)
  else none

end BoardQuery
