import BoardQuery.Json.Display

/-!
# Faults

The ways an operation ends without an answer of its own, because its input lies outside what the
operation is defined on. Text that cannot be read carries a message for the caller; the other
faults are told apart by their kind alone.
-/

namespace BoardQuery

/-- The closed lists that a name can be looked up in. -/
inductive NameList where
  | columnType
  | operator
  | logic
  deriving DecidableEq

def NameList.title : NameList → String
  | .columnType => "ColumnType"
  | .operator => "Operator"
  | .logic => "Logic"

/-- Why an address is no web address, beyond its shape. -/
inductive AddressError where
  | unbalancedBrackets
  | unknownHostNumber (host : String)
  | shortHostNumber
  | futureHostNumber
  | ambiguousHost (host : String)
  deriving DecidableEq

/-- Text or a value that cannot be read, or not be written. -/
inductive Unreadable where
  | name (list : NameList) (value : Json)
  | number (text : String)
  | integer (text : String)
  | integerTooLong (digits : Nat)
  | integerUnwritten
  | integerOfNaN
  | offsetTooLarge
  | address (why : AddressError)
  | missingPolicy (value : Json)
  | cursor
  | cursorOfOtherSort

/-- Why an operation has no answer. -/
inductive Fault where
  /-- The input cannot be read; the message says why. -/
  | unreadable (why : Unreadable)
  /-- A number or a date outside the range that can be held. -/
  | outOfRange
  /-- A value of a shape that the operation does not take. -/
  | wrongShape
  /-- A field was asked of a value that has none. -/
  | noFields
  /-- The store refused a statement. -/
  | refused

def AddressError.message : AddressError → String
  | .unbalancedBrackets => "Invalid IPv6 URL"
  | .unknownHostNumber host =>
    (Json.str host).quoted ++ " does not appear to be an IPv4 or IPv6 address"
  | .shortHostNumber => "An IPv4 address cannot be in brackets"
  | .futureHostNumber => "IPvFuture address is invalid"
  | .ambiguousHost host =>
    "netloc '" ++ host ++ "' contains invalid characters under NFKC normalization"

def Unreadable.message : Unreadable → String
  | .name list value => value.quoted ++ " is not a valid " ++ list.title
  | .number text => "could not convert string to float: " ++ (Json.str text).quoted
  | .integer text => "invalid literal for int() with base 10: " ++ (Json.str text).quoted
  | .integerTooLong digits =>
    "Exceeds the limit (4300 digits) for integer string conversion: value has " ++
      toString digits ++ " digits; use sys.set_int_max_str_digits() to increase the limit"
  | .integerUnwritten =>
    "Exceeds the limit (4300 digits) for integer string conversion; " ++
      "use sys.set_int_max_str_digits() to increase the limit"
  | .integerOfNaN => "cannot convert float NaN to integer"
  | .offsetTooLarge =>
    "offset must be a timedelta strictly between -timedelta(hours=24) and timedelta(hours=24)."
  | .address why => why.message
  | .missingPolicy value =>
    "missing_values must be 'first' or 'last', got '" ++ value.display ++ "'"
  | .cursor => "Invalid cursor"
  | .cursorOfOtherSort => "Cursor does not match the requested sort"

end BoardQuery
