import Prologue.Config.Basic
import Prologue.Yaml.Reading

/-! Reading a config from YAML. The fields are read in the order of the text, so the first thing that is wrong is
reported even if the text is malformed further on. -/

namespace Prologue.Config.YamlForm

open Yaml (Document Part Path Progress Reading Trouble)

/-- Whether a scalar may be read as a number: one without quotes, or a literal block with the tag of integers. -/
def mayBeNumber (tag : Option Yaml.Tag) (style : Yaml.ScalarStyle) : Bool :=
  style = .plain || (style = .literal && tag = some (Yaml.coreTag "int"))

def versionValue (tag : Option Yaml.Tag) (text : String) (style : Yaml.ScalarStyle) : Except Trouble Nat :=
  match (if mayBeNumber tag style then Yaml.natural? text.toList else none) with
  | some value =>
    if value < powerOfTwo 32 then .ok value
    else if value < powerOfTwo 64 then .error (.unplaced (.wrongValue (.int value) "u32"))
    else .error (Document.refusal "u32" (.scalar tag text style))
  | none => .error (Document.refusal "u32" (.scalar tag text style))

def readVersion (document : Document) (path : Path) (progress : Progress) : Reading Nat :=
  match document.target progress with
  | .error trouble => .error trouble
  | .ok target =>
    let value : Except Trouble Nat := match target.part with
      | .scalar tag text style => versionValue tag text style
      | part => .error (Document.refusal "u32" part)
    match value with
    | .error trouble => .error (trouble.place path target.mark)
    | .ok value => .ok (value, target.finish target.inside)

def severityNamed (name : String) : Except Trouble Severity :=
  match Severity.ofName? name with
  | some severity => .ok severity
  | none => .error (.unplaced (.unknownVariant name severityNames))

/-- What may follow the tag of a severity: nothing, or a null. -/
def unitContent : Part → Except Trouble Unit
  | .scalar _ text style =>
    if style = .plain && (text = "" || Yaml.isNullText text) then .ok ()
    else .error (.unplaced (.wrongValue (.string text) "null"))
  | part => .error (Document.refusal "unit" part)

/-- A severity is the text of a scalar, or a tag on nothing. A wrong name in a tag has no place of its own, but a
reference to it has. -/
def readSeverity (document : Document) (path : Path) (progress : Progress) : Reading Severity :=
  match document.target progress with
  | .error trouble => .error trouble
  | .ok target =>
    let tag := match target.part with
      | .scalar tag _ _ | .sequenceStart tag | .mappingStart tag => Yaml.ownName? tag
      | _ => none
    match tag with
    | some name =>
      match severityNamed name with
      | .error trouble => .error (target.placeReference path trouble)
      | .ok severity =>
        match unitContent target.part with
        | .error trouble => .error (trouble.place path target.mark)
        | .ok () => .ok (severity, target.finish target.inside)
    | none =>
      let severity : Except Trouble Severity := match target.part with
        | .scalar _ text _ => severityNamed text
        | part => .error (Document.refusal "a YAML tag starting with '!'" part)
      match severity with
      | .error trouble => .error (trouble.place path target.mark)
      | .ok severity => .ok (severity, target.finish target.inside)

/-- Whether an optional value is absent: an empty scalar or a null. -/
def isAbsent : Part → Except Trouble Bool
  | .scalar tag text style =>
    if style ≠ .plain then .ok false
    else
      match tag with
      | none => .ok (text = "" || Yaml.isNullText text)
      | some tag =>
        if tag ≠ Yaml.coreTag "null" then .ok false
        else if Yaml.isNullText text then .ok true
        else .error (.unplaced (.wrongValue (.string text) "null"))
  | .void => .ok true
  | _ => .ok false

/-- An absent option is none; any other value must be an option. A value that is none has no place of its own. -/
def readNewline (document : Document) (path : Path) (progress : Progress) : Reading (Option NewlineOption) :=
  match document.target progress with
  | .error trouble => .error trouble
  | .ok target =>
    match isAbsent target.part with
    | .error trouble => .error trouble
    | .ok true => .ok (none, target.finish target.inside)
    | .ok false =>
      match document.readValue (Document.depthLimit - 1) path ⟨target.position, target.followed⟩ with
      | .error trouble => .error trouble
      | .ok (value, after) =>
        match NewlineOption.ofJson value with
        | .ok option => .ok (some option, target.finish after)
        | .error error => .error (.unplaced (.badOption error))

/-- Whether a part stands for an empty collection. -/
def isEmptyCollection : Part → Bool
  | .void => true
  | .scalar _ text style => text = "" && style = .plain
  | _ => false

def readStrings (document : Document) (path : Path) (progress : Progress) : Reading (List String) :=
  match document.target progress with
  | .error trouble => .error trouble
  | .ok target =>
    match target.part with
    | .sequenceStart _ =>
      let item (index : Nat) := document.readText "a string" (.item path index)
      match document.readItems item (document.parts.size + 1) 0 target.inside with
      | .error trouble => .error (trouble.place path target.mark)
      | .ok (values, progress) => .ok (values, target.finish progress)
    | part =>
      if isEmptyCollection part then .ok ([], target.finish target.inside)
      else .error ((Document.refusal "a sequence" part).place path target.mark)

/-- Reads the value of a field. -/
def readField (document : Document) (draft : Draft) (field : Field) (path : Path) (progress : Progress) :
    Reading Draft :=
  match field with
  | .version => (readVersion document path progress).map fun r => ({ draft with version := some r.1 }, r.2)
  | .severity => (readSeverity document path progress).map fun r => ({ draft with severity := some r.1 }, r.2)
  | .newline => (readNewline document path progress).map fun r => ({ draft with newline := some r.1 }, r.2)
  | .extensions => (readStrings document path progress).map fun r => ({ draft with extensions := some r.1 }, r.2)
  | .ignore => (readStrings document path progress).map fun r => ({ draft with ignore := some r.1 }, r.2)

/-- The name of a field. -/
def readName (document : Document) (progress : Progress) : Reading Field :=
  match document.target progress with
  | .error trouble => .error trouble
  | .ok target =>
    let field : Except Trouble Field := match target.part with
      | .scalar _ text _ =>
        match Field.ofName? text with
        | some field => .ok field
        | none => .error (.unplaced (.unknownField text fieldNames))
      | part => .error (Document.refusal "field identifier" part)
    match field with
    | .error trouble => .error (trouble.place .root target.mark)
    | .ok field => .ok (field, target.finish target.inside)

def readMember (document : Document) (draft : Draft) (path : Path) (progress : Progress) : Reading Draft :=
  match readName document progress with
  | .error trouble => .error trouble
  | .ok (field, progress) =>
    if draft.has field then .error (.unplaced (.duplicateField field.name))
    else readField document draft field path progress

/-- A config is a mapping of its fields, or nothing. -/
def readConfig (document : Document) (progress : Progress) : Reading Config :=
  match document.target progress with
  | .error trouble => .error trouble
  | .ok target =>
    let draft : Reading Draft := match target.part with
      | .mappingStart _ =>
        document.readMembers .root (readMember document) (document.parts.size + 1) .empty target.inside
      | part =>
        if isEmptyCollection part then .ok (.empty, target.inside)
        else .error (Document.refusal "struct LintConfig" part)
    match draft with
    | .error trouble => .error (trouble.place .root target.mark)
    | .ok (draft, progress) => .ok (draft.finish, target.finish progress)

/-- The config of a whole document. -/
def decode (document : Document) : Except Trouble Config := document.readWhole (readConfig document)

end Prologue.Config.YamlForm
