/-! # Arguments of a command line

Arguments are switches, which may carry a value, and operands. A switch is written with its long
name, `--name value` or `--name=value`, or with its letter, `-n value`, `-nvalue` or `-n=value`;
letters can be run together. Behind `--` everything is an operand. A switch may be given once unless
it says otherwise, and a value that begins with a hyphen has to be attached to its switch.
-/

namespace Stencil.Command

/-- A switch of a command. -/
structure Switch where
  name : String
  letter : Option Char := none
  takesValue : Bool := true
  repeatable : Bool := false
deriving DecidableEq

/-- Arguments as they were given: the switches with their values, and the operands. -/
structure Arguments where
  switches : List (String × String) := []
  operands : List String := []

namespace Arguments

/-- Whether an argument is an operand or a value rather than a switch; a lone hyphen is. -/
def isPlain (argument : String) : Bool :=
  match argument.toList with
  | '-' :: _ :: _ => false
  | _ => true

/-- What an argument made of switches stands for: the switches in it, and the one that still wants a
value from the next argument. -/
structure Cluster where
  switches : List (String × String) := []
  wants : Option String := none

/-- The switches of a run of letters. -/
def readLetters (known : List Switch) : List Char → Option Cluster
  | [] => some {}
  | letter :: rest => do
    let switch ← known.find? (·.letter = some letter)
    if switch.takesValue then
      match rest with
      | [] => some { wants := some switch.name }
      | '=' :: value => some { switches := [(switch.name, String.ofList value)] }
      | value => some { switches := [(switch.name, String.ofList value)] }
    else
      let cluster ← readLetters known rest
      some { cluster with switches := (switch.name, "") :: cluster.switches }

/-- The switch with a long name, and the value behind an equals sign. -/
def readLong (known : List Switch) (text : List Char) : Option Cluster := do
  let name := text.takeWhile (· ≠ '=')
  let switch ← known.find? (·.name.toList = name)
  match text.drop name.length, switch.takesValue with
  | [], true => some { wants := some switch.name }
  | [], false => some { switches := [(switch.name, "")] }
  | _ :: value, true => some { switches := [(switch.name, String.ofList value)] }
  | _ :: _, false => none

/-- The switches of one argument. -/
def readCluster (known : List Switch) (argument : String) : Option Cluster :=
  match argument.toList with
  | '-' :: '-' :: text => readLong known text
  | '-' :: letters => readLetters known letters
  | _ => none

/-- All arguments; nothing if a switch is unknown or lacks a value. With `stopAtOperand` the
arguments from the first operand on are left to whoever that operand names; nobody can be named
behind `--`. -/
def read (known : List Switch) (stopAtOperand : Bool) : List String → Option Arguments
  | [] => some {}
  | "--" :: rest => if stopAtOperand then none else some { operands := rest }
  | argument :: rest =>
    if isPlain argument then
      if stopAtOperand then some { operands := argument :: rest }
      else (read known stopAtOperand rest).map fun behind =>
        { behind with operands := argument :: behind.operands }
    else
      match readCluster known argument, rest with
      | none, _ => none
      | some ⟨switches, none⟩, rest =>
        (read known stopAtOperand rest).map fun behind =>
          { behind with switches := switches ++ behind.switches }
      | some ⟨_, some _⟩, [] => none
      | some ⟨switches, some name⟩, value :: rest =>
        if isPlain value then
          (read known stopAtOperand rest).map fun behind =>
            { behind with switches := switches ++ (name, value) :: behind.switches }
        else none

/-- Whether no switch is given twice that may be given once. -/
def inOrder (known : List Switch) (arguments : Arguments) : Bool :=
  known.all fun switch =>
    switch.repeatable || (arguments.switches.filter (·.1 = switch.name)).length ≤ 1

/-- The value of a switch, if it is given. -/
def value? (arguments : Arguments) (name : String) : Option String := arguments.switches.lookup name

/-- The values of a switch in order. -/
def values (arguments : Arguments) (name : String) : List String :=
  arguments.switches.filterMap fun (other, value) => if other = name then some value else none

/-- Whether a switch is given. -/
def has (arguments : Arguments) (name : String) : Bool := (arguments.value? name).isSome

end Arguments

end Stencil.Command
