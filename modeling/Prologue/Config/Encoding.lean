import Prologue.Config.Basic

/-! The JSON form of a config and of its parts. -/

namespace Prologue

def Policy.toJson (policy : Policy) : Json :=
  .object [("before", .string policy.before.text), ("after", .string policy.after.text)]

def NewlineOption.toJson : NewlineOption → Json
  | .uniform mode => .string mode.text
  | .split before after => (Policy.mk before after).toJson

/-- All fields in their order; the option is left out when it is not set. -/
def Config.toJson (config : Config) : Json :=
  .object (
    [("version", .nat config.version), ("severity", .string config.severity.text)] ++
    (match config.newline with
      | some option => [("newline", option.toJson)]
      | none => []) ++
    [("extensions", .array (config.extensions.map .string)), ("ignore", .array (config.ignore.map .string))])

end Prologue
