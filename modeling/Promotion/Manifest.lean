import Promotion.Settings
import Promotion.Text.Double
import Promotion.Text.Line
import Promotion.Text.Quoted
import Promotion.Toml.Reader
/-!
# Settings from a manifest

The settings are the entry `param-properties` of a TOML document; the rest of the document is ignored.  The entry is a
table with the two settings under their names, or an array with the two settings in order, and what is absent keeps its
default.  A setting is the name of one of its values: as a string, or as the one key of a table whose value is empty.

Reading stops at the first fault, in the order of the document.  A fault stands at the part of the text it is about.
Tables made by dotted keys or passed through by headers stand nowhere, and a fault about one of them is reported at the
next enclosing node that does, in the end at the key it is the value of.
-/
namespace Promotion

namespace Manifest

/-- What can be wrong with the settings of a well-formed document. -/
inductive Fault where
  | unknownField (name : String)
  | invalidType (found : Toml.Scalar)
  | unknownVariant (name : String) (expected : List String)
  | noElement
  | severalElements
  | notTable (found : Toml.Scalar)
  | notEmptyTable
  | notEmptyArray
  | notStringOrTable
deriving DecidableEq, Repr

/-- A fault and where it stands, as far as that is known. -/
structure Problem where
  fault : Fault
  range : Option Toml.Range

/-- Puts problems that stand nowhere yet at the given range. -/
def orAt {α : Type} (range : Option Toml.Range) : Except Problem α → Except Problem α
  | .ok a => .ok a
  | .error p => .error { p with range := p.range <|> range }

/-- The key of the settings in a manifest. -/
def rootKey : String := "param-properties"

/-- The value with the given name, which stands at `range`. -/
def variant {α : Type} (all : List α) (name : α → String) (s : String) (range : Toml.Range) : Except Problem α :=
  match all.find? fun a => name a = s with
  | some a => .ok a
  | none => .error ⟨.unknownVariant s (all.map name), some range⟩

/-- What stands behind the name of a value in a table: an empty table or array. -/
def nothing : Toml.Node → Except Problem Unit
  | .scalar s r => .error ⟨.notTable s, some r⟩
  | .array items r => if items.isEmpty then .ok () else .error ⟨.notEmptyTable, some r⟩
  | .table t => if t.entries.isEmpty then .ok () else .error ⟨.notEmptyTable, t.range⟩
  | .tables ts => if ts.isEmpty then .ok () else .error ⟨.notEmptyArray, (Toml.Node.tables ts).range?⟩

/-- A setting with the given values. -/
def setting {α : Type} (all : List α) (name : α → String) (n : Toml.Node) : Except Problem α :=
  orAt n.range? <| match n with
    | .scalar (.string s) r => variant all name s r
    | .table t =>
      match t.entries with
      | [] => .error ⟨.noElement, t.range⟩
      | [e] => do
        let a ← variant all name e.key.name e.key.range
        nothing e.value
        return a
      | _ => .error ⟨.severalElements, t.range⟩
    | n => .error ⟨.notStringOrTable, n.range?⟩

def eligibility : Toml.Node → Except Problem Eligibility := setting Eligibility.all Eligibility.name

def missingConstructor : Toml.Node → Except Problem MissingConstructor :=
  setting MissingConstructor.all MissingConstructor.name

/-- The settings with those of one entry of a table. -/
def ofEntry (s : Settings) (e : Toml.Entry) : Except Problem Settings :=
  if e.key.name = Settings.eligibilityKey then do
    return s.withEligibility (← orAt (some e.key.range) (eligibility e.value))
  else if e.key.name = Settings.missingConstructorKey then do
    return s.withMissingConstructor (← orAt (some e.key.range) (missingConstructor e.value))
  else .error ⟨.unknownField e.key.name, some e.key.range⟩

/-- The settings by their place in an array. -/
def ofItems : List Toml.Node → Except Problem Settings
  | [] => .ok {}
  | [e] => do return { eligibility := ← eligibility e }
  | e :: m :: _ => do return ⟨← eligibility e, ← missingConstructor m⟩

/-- The settings of the entry `param-properties`. -/
def ofNode (n : Toml.Node) : Except Problem Settings :=
  orAt n.range? <| match n with
    | .table t => t.entries.foldlM ofEntry {}
    | .array items _ => ofItems items
    | .tables ts => ofItems (ts.map .table)
    | .scalar s r => .error ⟨.invalidType s, some r⟩

/-- Why a manifest gives no settings. -/
inductive Error where
  /-- The text is no TOML document. -/
  | malformed
  | invalid (fault : Fault) (range : Toml.Range)
deriving DecidableEq, Repr

/-- The settings of a document. -/
def ofTable (t : Toml.Table) : Except Error Settings :=
  match t.find? rootKey with
  | none => .ok {}
  | some e =>
    match ofNode e.value with
    | .ok s => .ok s
    | .error p => .error (.invalid p.fault (p.range.getD e.key.range))

/-- The settings of a manifest. -/
def read (text : String) : Except Error Settings :=
  match Toml.Table.read? text with
  | none => .error .malformed
  | some t => ofTable t

/-! ## Wording -/

def backquoted (s : String) : String := "`" ++ s ++ "`"

def oneOf (names : List String) : String := String.intercalate " or " (names.map backquoted)

def floatText : Toml.FloatValue → String
  | .finite d =>
    let f := Float.ofScientific d.digits (d.exponent < 0) d.exponent.natAbs
    if f.isInf then "-inf" else Text.doubleText (if d.isNegative then -f else f)
  | .infinite isNegative => if isNegative then "-inf" else "inf"
  | .nan => "NaN"

/-- The name of a scalar's type. -/
def typeName : Toml.Scalar → String
  | .string _ => "string"
  | .integer _ => "integer"
  | .float _ => "float"
  | .boolean _ => "boolean"
  | .datetime => "datetime"

def unknownField (name : String) : String :=
  "unknown field " ++ backquoted name ++ ", expected " ++
    oneOf [Settings.eligibilityKey, Settings.missingConstructorKey]

/-- A scalar where the settings should be; a date is taken for a table with a field of its own. -/
def invalidType : Toml.Scalar → String
  | .datetime => unknownField "$__toml_private_datetime"
  | s =>
    let found := match s with
      | .string v => "string " ++ Text.quoted v
      | .integer n => "integer " ++ backquoted (toString n)
      | .float f => "floating point " ++ backquoted (floatText f)
      | .boolean b => "boolean " ++ backquoted (toString b)
      | .datetime => "datetime"
    "invalid type: " ++ found ++ ", expected struct TransformConfig"

def Fault.text : Fault → String
  | unknownField name => Manifest.unknownField name
  | invalidType found => Manifest.invalidType found
  | unknownVariant name expected => "unknown variant " ++ backquoted name ++ ", expected " ++ oneOf expected
  | noElement => "wanted exactly 1 element, found 0 elements"
  | severalElements => "wanted exactly 1 element, more than 1 element"
  | notTable found => "expected table, found " ++ typeName found
  | notEmptyTable => "expected empty table"
  | notEmptyArray => "expected empty array"
  | notStringOrTable => "wanted string or table"

/-- A fault with the line of the text it stands in and carets under it, at least one and none behind the line. -/
def located (text : String) (range : Toml.Range) (fault : Fault) : String :=
  let line := Text.lineAt (Text.linesOf text) range.start
  let column := line.column range.start
  let number := toString line.number
  let margin := Text.spaces (number.length + 1) ++ "|"
  let carets := max 1 (min (range.stop - range.start) (Text.byteLength line.text - (column - 1)))
  "TOML parse error at line " ++ number ++ ", column " ++ toString column ++ "\n" ++
    margin ++ "\n" ++
    number ++ " | " ++ String.ofList line.text ++ "\n" ++
    margin ++ Text.spaces column ++ String.ofList (List.replicate carets '^') ++ "\n" ++
    fault.text ++ "\n"

/-- The message for a fault in the settings of `text`. -/
def message (text : String) (fault : Fault) (range : Toml.Range) : String :=
  "invalid [param-properties] configuration: " ++ located text range fault

end Manifest

end Promotion
