import StaticSite.Json.Writer
import StaticSite.Text.Blank

/-!
# Properties

Properties come from an editor without types. A value counts as present when it is
truthy: null, false, zero and the empty text count as missing, so that the default of
whoever asks applies.
-/

namespace StaticSite.Json

open StaticSite.Decimal

def Number.isZero : Number → Bool
  | .integer n => n == 0
  | .float x => Decimal.isZero x || Decimal.isNaN x

def Value.isTruthy : Value → Bool
  | .null => false
  | .bool b => b
  | .number n => !n.isZero
  | .string s => !s.isEmpty
  | .array _ => true
  | .object _ => true

/-- Whole numbers have no point, and zero has no sign. -/
def Number.display : Number → String
  | .integer n => toString n
  | .float x => if Decimal.isZero x then "0" else plain x

mutual

/-- The text of a value when it is shown: the items of an array with commas between them,
and no look into an object. -/
def Value.display : Value → String
  | .null => "null"
  | .bool b => if b then "true" else "false"
  | .number n => n.display
  | .string s => s
  | .array items => String.intercalate "," (displayItems items)
  | .object _ => "[object Object]"

def displayItems : List Value → List String
  | [] => []
  | .null :: rest => "" :: displayItems rest
  | item :: rest => item.display :: displayItems rest

end

end StaticSite.Json

namespace StaticSite

open Json

/-- The properties of a component, in the order of its document. -/
abbrev Props := Members

/-- The value under a key if it is truthy. -/
def Props.present? (props : Props) (key : String) : Option Value :=
  (Members.get? key props).filter (·.isTruthy)

def Props.text? (props : Props) (key : String) : Option String :=
  (props.present? key).map (·.display)

def Props.text (props : Props) (key default : String) : String :=
  (props.text? key).getD default

def Props.flag (props : Props) (key : String) : Bool :=
  (props.present? key).isSome

/-- Only a key that is missing or null takes the default here. -/
def Props.flagOr (props : Props) (key : String) (default : Bool) : Bool :=
  match Members.get? key props with
  | none | some .null => default
  | some value => value.isTruthy

/-- Numbers, and texts that read as numbers. -/
def Props.number? (props : Props) (key : String) : Option Float :=
  match props.present? key with
  | some (.number n) => some n.toFloat
  | some (.string s) => Decimal.float? (Text.trim s)
  | _ => none

/-- The items of an array; any other value has none. -/
def Props.list (props : Props) (key : String) : List Value :=
  match Members.get? key props with
  | some (.array items) => items
  | _ => []

end StaticSite
