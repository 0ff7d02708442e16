import Parlance.Folder.Path

/-!
Commands, as a list of arguments spells them: a name, then switches and an operand in any order.
Two hyphens end the switches; short switches may stand together behind one hyphen. Before the name
only the version can be asked for.
-/

namespace Parlance

structure Command.Options where
  strict : Bool
  /-- Calls of modules are recorded in place of being served. -/
  recordModules : Bool
  /-- The settings file to use, whatever lies near. -/
  settings : Option Path
  deriving DecidableEq, Repr

inductive Command where
  | version
  | run (file : Path) (options : Command.Options)
  | eval (source : String) (options : Command.Options)
  | tokens (file : Path)
  | ast (file : Path) (strict : Bool)
  | keywords
  | repl (strict : Bool)
  deriving DecidableEq, Repr

namespace Command

inductive Switch where
  | strict
  | recordModules
  | verbose
  | settings (path : String)
  deriving DecidableEq, Repr

structure Arguments where
  switches : List Switch
  operands : List String
  deriving DecidableEq, Repr

namespace Arguments

def none : Arguments := ⟨[], []⟩

def addSwitch (switch : Switch) (arguments : Arguments) : Arguments :=
  { arguments with switches := arguments.switches ++ [switch] }

def addOperand (operand : String) (arguments : Arguments) : Arguments :=
  { arguments with operands := arguments.operands ++ [operand] }

def has (switch : Switch) (arguments : Arguments) : Bool := arguments.switches.contains switch

/-- The settings file of the last switch that names one. -/
def settings? (arguments : Arguments) : Option Path :=
  (arguments.switches.reverse.findSome? fun switch =>
    match switch with
    | .settings path => some path
    | _ => Option.none).map Path.ofText

def options (arguments : Arguments) : Options :=
  ⟨arguments.has .strict, arguments.has .recordModules, arguments.settings?⟩

end Arguments

/-- What one argument asks for; a switch may want the next argument for its value. -/
inductive Word where
  | switches (found : List Switch)
  | wantsValue (found : List Switch)
  | operand (text : String)
  | ends
  deriving DecidableEq, Repr

/-- A long switch, behind its hyphens. -/
def longWord? (name : String) (value : Option String) : Option Word :=
  match name, value with
  | "strict", none => some (.switches [.strict])
  | "record-modules", none => some (.switches [.recordModules])
  | "verbose", none => some (.switches [.verbose])
  | "config", none => some (.wantsValue [])
  | "config", some path => some (.switches [.settings path])
  | _, _ => none

/-- Short switches behind one hyphen; what follows one that takes a value is its value. -/
def shortWord? (found : List Switch) : List Char → Option Word
  | [] => some (.switches found)
  | 'v' :: rest => shortWord? (found ++ [.verbose]) rest
  | 'c' :: rest =>
      if rest.isEmpty then some (.wantsValue found)
      else some (.switches (found ++ [.settings (String.ofList rest)]))
  | _ => none

def word? (argument : String) : Option Word :=
  match argument.toList with
  | ['-', '-'] => some .ends
  | '-' :: '-' :: rest =>
      let name := rest.takeWhile (· ≠ '=')
      let value := if rest.contains '=' then some (rest.drop (name.length + 1)) else none
      longWord? (String.ofList name) (value.map String.ofList)
  | '-' :: c :: rest => shortWord? [] (c :: rest)
  | _ => some (.operand argument)

/-- Reads arguments; nothing if one of them is no switch that there is. -/
def readFrom (arguments : Arguments) : List String → Option Arguments
  | [] => some arguments
  | argument :: rest => do
      match ← word? argument, rest with
      | .switches found, rest => readFrom (found.foldl (fun a s => a.addSwitch s) arguments) rest
      | .wantsValue found, value :: rest =>
          readFrom ((found ++ [Switch.settings value]).foldl (fun a s => a.addSwitch s) arguments)
            rest
      | .wantsValue _, [] => none
      | .operand text, rest => readFrom (arguments.addOperand text) rest
      | .ends, rest => some (rest.foldl (fun a text => a.addOperand text) arguments)

/-- The switches that commands know by name. -/
def Switch.isAllowed (command : String) : Switch → Bool
  | .strict => command ≠ "tokens" && command ≠ "keywords"
  | .verbose => command = "run" || command = "eval" || command = "repl"
  | .recordModules | .settings _ => command = "run" || command = "eval"

/-- Why arguments are refused. -/
inductive Refusal where
  /-- They spell no command. -/
  | misspelt
  /-- A path among them holds a null. -/
  | nullInPath
  deriving DecidableEq, Repr

/-- The paths among the arguments of a command. -/
def pathsAmong (name : String) (arguments : Arguments) : List Path :=
  let files := if ["run", "tokens", "ast"].contains name then arguments.operands.take 1 else []
  arguments.settings?.toList ++ files.map Path.ofText

/-- The command of a name. Paths are looked at before operands are counted. -/
def ofParts (name : String) (arguments : Arguments) : Except Refusal Command :=
  if !arguments.switches.all (Switch.isAllowed name) then .error .misspelt
  else if !(pathsAmong name arguments).all Path.isWritable then .error .nullInPath
  else
    match name, arguments.operands with
    | "run", [file] => .ok (.run (.ofText file) arguments.options)
    | "eval", [source] => .ok (.eval source arguments.options)
    | "tokens", [file] => .ok (.tokens (.ofText file))
    | "ast", [file] => .ok (.ast (.ofText file) (arguments.has .strict))
    | "keywords", [] => .ok .keywords
    | "repl", [] => .ok (.repl (arguments.has .strict))
    | _, _ => .error .misspelt

def ofName (name : String) (arguments : List String) : Except Refusal Command :=
  match readFrom .none arguments with
  | some arguments => ofParts name arguments
  | none => .error .misspelt

/-- Reads the switches before the name of a command, perhaps ended by two hyphens: whether the
version is asked for, and the arguments behind. Nothing if there is another switch. -/
def openingFrom (asked : Bool) : List String → Option (Bool × List String)
  | [] => some (asked, [])
  | argument :: rest =>
      match argument.toList with
      | ['-', '-'] => some (asked, rest)
      | '-' :: '-' :: _ => if argument = "--version" then openingFrom true rest else none
      | '-' :: c :: more => if (c :: more).all (· = 'V') then openingFrom true rest else none
      | _ => some (asked, argument :: rest)

/-- The version, if arguments open with a switch that asks for it. -/
def version? (arguments : List String) : Option Command :=
  match openingFrom false arguments with
  | some (true, _) => some .version
  | _ => none

/-- The command that arguments spell. Behind two hyphens that are not followed by the name of a
command the version may be asked for once more. -/
def ofArguments (arguments : List String) : Except Refusal Command :=
  match openingFrom false arguments with
  | some (true, _) => .ok .version
  | some (false, name :: rest) =>
      match ofName name rest, version? (name :: rest) with
      | .error .misspelt, some command => .ok command
      | spelled, _ => spelled
  | some (false, []) | none => .error .misspelt

end Command

end Parlance
