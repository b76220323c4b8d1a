import Prologue.Json.Printer

/-! The policy for blank lines on the two sides of a directive, and the option that sets it. -/

namespace Prologue

/-- Whether a blank line is required or forbidden. -/
inductive Mode where
  | always
  | never
deriving DecidableEq, Repr

def Mode.text : Mode → String
  | .always => "always"
  | .never => "never"

def Mode.ofText? (text : String) : Option Mode :=
  if text = "always" then some .always else if text = "never" then some .never else none

/-- A side of the directive. -/
inductive Side where
  | before
  | after
deriving DecidableEq, Repr

def Side.text : Side → String
  | .before => "before"
  | .after => "after"

/-- The mode of each side. -/
structure Policy where
  before : Mode
  after : Mode
deriving DecidableEq, Repr

def Policy.mode (policy : Policy) : Side → Mode
  | .before => policy.before
  | .after => policy.after

/-- The option as it is configured: one mode for both sides, or a mode for each. -/
inductive NewlineOption where
  | uniform (mode : Mode)
  | split (before after : Mode)
deriving DecidableEq, Repr

/-- Without an option a blank line is required on both sides. -/
def Policy.resolve : Option NewlineOption → Policy
  | none => ⟨.always, .always⟩
  | some (.uniform mode) => ⟨mode, mode⟩
  | some (.split before after) => ⟨before, after⟩

/-- Why a value is no option. -/
inductive OptionError where
  | unknownMode (text : String)
  | unknownKey (key : String)
  | missingKey (side : Side)
  | badMode (side : Side) (found : Json)
  | badShape (found : Json)
deriving Repr

def OptionError.message : OptionError → String
  | .unknownMode text => "expected \"always\" or \"never\", got \"" ++ text ++ "\""
  | .unknownKey key => "unknown option key '" ++ key ++ "'"
  | .missingKey side => "missing required key '" ++ side.text ++ "'"
  | .badMode side found => "'" ++ side.text ++ "' must be \"always\" or \"never\", got " ++ found.compact
  | .badShape found => "expected \"always\", \"never\" or \x7bbefore, after\x7d, got " ++ found.compact

namespace NewlineOption

/-- The mode that a member of the option holds. -/
def modeOf (side : Side) (value : Json) : Except OptionError Mode :=
  match value with
  | .string text =>
    match Mode.ofText? text with
    | some mode => .ok mode
    | none => .error (.badMode side value)
  | _ => .error (.badMode side value)

/-- A key that the option does not have. -/
def foreignKey? : List (String × Json) → Option String
  | [] => none
  | (key, _) :: rest => if key = "before" ∨ key = "after" then foreignKey? rest else some key

/-- Reads an option. Of several faults, a foreign key is reported first, then a missing key, then a bad mode. -/
def ofJson : Json → Except OptionError NewlineOption
  | .string text =>
    match Mode.ofText? text with
    | some mode => .ok (.uniform mode)
    | none => .error (.unknownMode text)
  | .object members =>
    match foreignKey? members with
    | some key => .error (.unknownKey key)
    | none =>
      match Json.lookup "before" members, Json.lookup "after" members with
      | none, _ => .error (.missingKey .before)
      | some _, none => .error (.missingKey .after)
      | some before, some after =>
        match modeOf .before before with
        | .error e => .error e
        | .ok before =>
          match modeOf .after after with
          | .error e => .error e
          | .ok after => .ok (.split before after)
  | found => .error (.badShape found)

end NewlineOption

end Prologue
