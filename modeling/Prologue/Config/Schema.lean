import Prologue.Config.Basic

/-! The JSON schema of a config file. -/

namespace Prologue.Config

def schemaStrings (values : List String) : Json := .array (values.map .string)

def schemaChoice (values : List String) : List (String × Json) :=
  [("type", .string "string"), ("enum", schemaStrings values)]

/-- A field that holds a list of strings. -/
def schemaList (description : String) (values : List String) : Json :=
  .object
    [("description", .string description), ("type", .string "array"), ("default", schemaStrings values),
      ("items", .object [("type", .string "string")])]

def schemaReference (name : String) : String × Json := ("$ref", .string ("#/$defs/" ++ name))

def schemaMode : Json := .object (schemaChoice [Mode.always.text, Mode.never.text])

/-- Both shapes of the option: one mode, or one for each side. -/
def schemaOption : Json :=
  .object
    [("description", .string "\"always\" or \"never\" for both sides, or a \x7bbefore, after\x7d pair"),
      ("oneOf", .array
        [schemaMode,
          .object
            [("type", .string "object"),
              ("properties", .object [("after", schemaMode), ("before", schemaMode)]),
              ("additionalProperties", .bool false),
              ("required", schemaStrings ["before", "after"])]])]

def schema : Json :=
  .object
    [("$schema", .string "https://json-schema.org/draft/2020-12/schema"),
      ("title", .string "LintConfig"),
      ("description", .string "Configuration file (`.strict-spacing.yaml`)"),
      ("type", .string "object"),
      ("properties", .object
        [("extensions", schemaList "File extensions to lint during directory walks" default.extensions),
          ("ignore", schemaList "Directory names skipped during directory walks" default.ignore),
          ("newline", .object
            [("description", .string "`always`, `never`, or `\x7b before, after \x7d`; `always` when absent"),
              ("anyOf", .array [.object [schemaReference "PolicyOption"], .object [("type", .string "null")]])]),
          ("severity", .object
            [("description", .string "Severity of reported diagnostics"), schemaReference "Severity",
              ("default", .string default.severity.text)]),
          ("version", .object
            [("description", .string "Schema version for migrations"), ("type", .string "integer"),
              ("format", .string "uint32"), ("default", .nat default.version), ("minimum", .nat 0)])]),
      ("additionalProperties", .bool false),
      ("$defs", .object
        [("PolicyOption", schemaOption), ("Severity", .object (schemaChoice severityNames))])]

end Prologue.Config
