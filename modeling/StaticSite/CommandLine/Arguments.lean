/-!
# Arguments

An argument is an option, the value of the option in front of it, or an operand. Rules say
which options there are. Whatever no rule allows is refused, and so is an option that is
given again.
-/

namespace StaticSite.CommandLine

inductive Arity
  | switch
  /-- The option has one value, in its own argument or in the next one. -/
  | value (accepts : String → Bool)
  /-- The option ends the reading of the arguments. -/
  | stop

structure OptionRule where
  name : String
  short : Option Char
  arity : Arity

structure Matched where
  /-- The options that were given, with their values. -/
  given : List (String × String) := []
  operands : List String := []

inductive Scan
  | finished (matched : Matched)
  | stopped (name : String)

def Matched.value? (matched : Matched) (name : String) : Option String :=
  matched.given.lookup name

def Matched.has (matched : Matched) (name : String) : Bool :=
  (matched.value? name).isSome

def isNonEmpty (value : String) : Bool :=
  !value.isEmpty

/-- A single hyphen is an operand. -/
def isHyphened (argument : String) : Bool :=
  match argument.toList with
  | '-' :: _ :: _ => true
  | _ => false

def Matched.give (matched : Matched) (name value : String) : Option Matched :=
  if matched.has name then none
  else some { matched with given := matched.given ++ [(name, value)] }

/-- Adds operands, of which there are only so many. -/
def Matched.addOperands (limit : Nat) (matched : Matched) (operands : List String) :
    Option Matched :=
  if operands.all isNonEmpty && matched.operands.length + operands.length ≤ limit then
    some { matched with operands := matched.operands ++ operands }
  else none

/-- What one argument comes to. -/
inductive Step
  | next (matched : Matched)
  | awaiting (rule : OptionRule) (matched : Matched)
  | stopped (name : String)

def OptionRule.take (rule : OptionRule) (value : String) (matched : Matched) : Option Matched :=
  match rule.arity with
  | .value accepts => if accepts value then matched.give rule.name value else none
  | _ => none

/-- An option by its name, behind its two hyphens. -/
def stepLong (rules : List OptionRule) (matched : Matched) (cs : List Char) : Option Step := do
  let name := String.ofList (cs.takeWhile (· != '='))
  let rule ← rules.find? (·.name = name)
  match rule.arity, cs.dropWhile (· != '=') with
  | .switch, [] => (matched.give name "").map .next
  | .stop, [] => some (.stopped name)
  | .value _, [] => some (.awaiting rule matched)
  | .value _, _ :: value => (rule.take (String.ofList value) matched).map .next
  | _, _ :: _ => none

/-- Options by their letters, behind one hyphen. A value ends them. -/
def stepShort (rules : List OptionRule) (matched : Matched) : List Char → Option Step
  | [] => some (.next matched)
  | c :: rest => do
    let rule ← rules.find? (·.short = some c)
    match rule.arity, rest with
    | .switch, rest => stepShort rules (← matched.give rule.name "") rest
    | .stop, _ => some (.stopped rule.name)
    | .value _, [] => some (.awaiting rule matched)
    | .value _, '=' :: value => (rule.take (String.ofList value) matched).map .next
    | .value _, value => (rule.take (String.ofList value) matched).map .next

def stepOf (rules : List OptionRule) (limit : Nat) (matched : Matched) (argument : String) :
    Option Step :=
  match argument.toList with
  | '-' :: '-' :: cs => stepLong rules matched cs
  | '-' :: c :: cs => stepShort rules matched (c :: cs)
  | _ => (matched.addOperands limit [argument]).map .next

/-- Reads arguments. Behind two hyphens there are operands only. -/
def scan (rules : List OptionRule) (limit : Nat) (matched : Matched) : List String → Option Scan
  | [] => some (.finished matched)
  | "--" :: rest => (matched.addOperands limit rest).map .finished
  | argument :: rest =>
    match stepOf rules limit matched argument, rest with
    | none, _ => none
    | some (.stopped name), _ => some (.stopped name)
    | some (.next matched), rest => scan rules limit matched rest
    | some (.awaiting _ _), [] => none
    | some (.awaiting rule matched), value :: rest =>
      if isHyphened value then none
      else (rule.take value matched).bind fun matched => scan rules limit matched rest

end StaticSite.CommandLine
