import Prologue.Error

/-! The arguments of a command. -/

namespace Prologue.Arguments

/-- The flags that take a value. -/
def valueFlags : List String := ["--config", "--newline", "--before", "--after", "--severity"]

/-- What follows the first mention of a flag. -/
def flagValue? (flag : String) : List String → Option String
  | [] => none
  | arg :: rest => if arg = flag then rest.head? else flagValue? flag rest

def hasFlag (flag : String) (args : List String) : Bool := args.contains flag

/-- The arguments that are no flags and no values of flags. -/
def positional : List String → List String
  | [] => []
  | arg :: rest =>
    if valueFlags.contains arg then
      match rest with
      | [] => []
      | _ :: rest => positional rest
    else if arg.toList.take 2 = ['-', '-'] then positional rest
    else arg :: positional rest

/-- The mode that a flag gives, if it is there. -/
def flagMode (flag : String) (args : List String) : Except ConfigFault (Option Mode) :=
  match flagValue? flag args with
  | none => .ok none
  | some value =>
    match Mode.ofText? value with
    | some mode => .ok (some mode)
    | none => .error (.badMode flag value)

/-- One mode for both sides, or a mode for each, but not a mix. -/
def combine : (newline before after : Option Mode) → Except ConfigFault (Option NewlineOption)
  | some mode, none, none => .ok (some (.uniform mode))
  | some _, _, _ => .error .uniformAndSplit
  | none, some before, some after => .ok (some (.split before after))
  | none, none, none => .ok none
  | none, _, _ => .error .oneSideOnly

def flagSeverity (args : List String) : Except ConfigFault (Option Severity) :=
  match flagValue? "--severity" args with
  | none => .ok none
  | some value =>
    match Severity.ofText? value with
    | some severity => .ok (some severity)
    | none => .error (.badSeverity value)

/-- What the flags set over a config. -/
def overrides (args : List String) : Except ConfigFault Config.Overrides := do
  let newline ← flagMode "--newline" args
  let before ← flagMode "--before" args
  let after ← flagMode "--after" args
  let newline ← combine newline before after
  let severity ← flagSeverity args
  .ok { newline, severity }

end Prologue.Arguments
