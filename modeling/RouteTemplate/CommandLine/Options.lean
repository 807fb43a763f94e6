import RouteTemplate.Table
import RouteTemplate.Text.Basic

/-!
Options among arguments. A long option may bring its value after an equals sign; short ones may stand together
behind one hyphen, and the first that takes a value takes what is left of the argument. A value that does not
come with its option is the next argument, whatever that looks like. Two hyphens alone end the options.
-/

set_option autoImplicit false

namespace RouteTemplate.CommandLine

/-- What an option is: itself alone, or with a value. -/
inductive Switch (α : Type) where
  | alone (option : α)
  | valued (option : Text → α)

/-- The options that are known, under their names with the hyphens. -/
abbrev Switches (α : Type) := List (Text × Switch α)

/-- What an argument brings: options, and perhaps one more whose value is the next argument. -/
structure Brought (α : Type) where
  options : List α
  awaiting : Option (Text → α) := none

namespace Switches

variable {α : Type}

def readLong (known : Switches α) (argument : Text) : Option (Brought α) :=
  match Text.splitFirst '=' argument with
  | some (name, value) =>
    match Table.get? name known with
    | some (.valued option) => some ⟨[option value], none⟩
    | _ => none
  | none =>
    match Table.get? argument known with
    | some (.alone option) => some ⟨[option], none⟩
    | some (.valued option) => some ⟨[], some option⟩
    | none => none

def readLetters (known : Switches α) : Text → Option (Brought α)
  | [] => some ⟨[], none⟩
  | letter :: rest =>
    match Table.get? [CodePoint.ofChar '-', letter] known with
    | none => none
    | some (.alone option) =>
      (readLetters known rest).map fun brought => { brought with options := option :: brought.options }
    | some (.valued option) =>
      match rest with
      | [] => some ⟨[], some option⟩
      | value => some ⟨[option value], none⟩

/-- Is an argument made of options? A hyphen alone is not. -/
def isOption : Text → Bool
  | [] => false
  | [_] => false
  | c :: _ => c = '-'

def readOption (known : Switches α) (argument : Text) : Option (Brought α) :=
  if argument.startsWith "--" then readLong known argument else readLetters known argument.tail

/-- The options of arguments in their order, and the other arguments. Options may stand behind other arguments
only where they are mixed; otherwise the first other argument ends them. Unknown options, missing values and
values that an option does not take have no reading. -/
def scan (known : Switches α) (mixed : Bool) :
    (awaiting : Option (Text → α)) → List Text → Option (List α × List Text)
  | some _, [] => none
  | none, [] => some ([], [])
  | some option, value :: rest =>
    (scan known mixed none rest).map fun (options, others) => (option value :: options, others)
  | none, argument :: rest =>
    if argument = Text.ofString "--" then some ([], rest)
    else if isOption argument then
      match readOption known argument with
      | none => none
      | some brought =>
        (scan known mixed brought.awaiting rest).map fun (options, others) => (brought.options ++ options, others)
    else if mixed then
      (scan known mixed none rest).map fun (options, others) => (options, argument :: others)
    else some ([], argument :: rest)

def read (known : Switches α) (mixed : Bool) (arguments : List Text) : Option (List α × List Text) :=
  scan known mixed none arguments

end Switches

end RouteTemplate.CommandLine
