import SqlDialect.Json.Value

/-!
# Errors of a configuration

What can be wrong with a configuration text: it is no JSON at all, it is no object, or a member
has the wrong shape or an unknown value.

## Main definitions

* `ConfigError` — the causes
* `ConfigError.message` — their words
-/

namespace SqlDialect

/-- What is wrong with a configuration. -/
inductive ConfigError where
  /-- The text is not JSON, or beyond the limits of the reader. -/
  | malformed
  /-- The text is JSON but no object. -/
  | notAnObject (found : Json.Shape)
  /-- A member that has to be a text is something else. -/
  | notAString (found : Json.Shape)
  /-- The list of timestamp fields is neither a list of texts nor a text. -/
  | notAList
  /-- No quoting has this name. -/
  | unknownQuoting (name : Text)
  /-- No insert mode has this name. -/
  | unknownInsertMode (name : Text)
  /-- No timestamp precision has this name. -/
  | unknownPrecision (name : Text)
  deriving DecidableEq

/-- The words for the cause. -/
def ConfigError.message : ConfigError → Text
  | .malformed => "malformed JSON"
  | .notAnObject found => "invalid type: " ++ found.text ++ ", expected a map"
  | .notAString found => "invalid type: " ++ found.text ++ ", expected a string"
  | .notAList => "data did not match any variant of untagged enum ListOrCsv"
  | .unknownQuoting name => "unknown quote method '" ++ name ++ "'"
  | .unknownInsertMode name => "unknown insert mode '" ++ name ++ "'"
  | .unknownPrecision name => "unknown timestamp precision '" ++ name ++ "'"

end SqlDialect
