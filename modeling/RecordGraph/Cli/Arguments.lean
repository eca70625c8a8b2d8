import RecordGraph.Urn

/-!
# Command lines

What the program is asked to do. Arguments are read from left to right, and the first one
that does not fit decides; a request for help counts as soon as it is read.
-/

namespace RecordGraph.Cli

/-- What the program can do. -/
inductive Command
  /-- Writes the batch in a file. -/
  | apply (file : String)
  /-- Deletes entities with all their edges. -/
  | removeEntities (urns : List Urn)
  /-- Prints a node, and the edges of a label that leave it. -/
  | inspect (urn : Urn) (outgoing : Option String)
deriving DecidableEq, Repr

structure Arguments where
  /-- The name of the file with settings. -/
  config : String
  command : Command
deriving DecidableEq, Repr

/-- Why a command line asks for nothing to be done. -/
inductive Refusal
  | help
  | usage
deriving DecidableEq, Repr

/-- An option with a value. -/
structure OptionName where
  long : String
  short : Option Char

/-- What an argument says. -/
inductive Meaning
  | help
  | unknown
  /-- The option, with its value in the next argument. -/
  | awaiting
  /-- The option with its value. -/
  | value (text : String)
  /-- Everything that follows is plain. -/
  | escape
  | plain

/-- The meaning of an argument where the given option may stand. -/
def Meaning.ofArgument (option : Option OptionName) (arg : String) : Meaning :=
  match arg.toList with
  | ['-', '-'] => escape
  | '-' :: '-' :: cs =>
      let name := String.ofList (cs.takeWhile (· ≠ '='))
      match decide (name = "help"), option.any (·.long = name), cs.dropWhile (· ≠ '=') with
      | true, _, [] => help
      | _, true, [] => awaiting
      | _, true, _ :: text => value (String.ofList text)
      | _, _, _ => unknown
  | '-' :: c :: cs =>
      match decide (c = 'h'), option.any (·.short = some c), cs with
      | true, _, _ => help
      | _, true, [] => awaiting
      | _, true, '=' :: text => value (String.ofList text)
      | _, true, text => value (String.ofList text)
      | _, _, _ => unknown
  | _ => plain

/-- Whether an argument may be the value of the option before it. -/
def isValue (arg : String) : Bool :=
  match arg.toList with
  | '-' :: _ :: _ => false
  | _ => true

/-- The form of the arguments of a command. -/
structure Form (α : Type) where
  option : Option OptionName
  convert : String → Option α
  /-- The greatest number of plain arguments. -/
  limit : Option Nat

namespace Form

/-- Takes one more plain argument. -/
def take (form : Form α) (found : List α) (arg : String) : Except Refusal (List α) :=
  if form.limit.any (· ≤ found.length) then .error .usage
  else
    match form.convert arg with
    | some a => .ok (found ++ [a])
    | none => .error .usage

/-- Reads the value of the option, if it is given, and the plain arguments. -/
def read (form : Form α) (value : Option String) (found : List α) :
    List String → Except Refusal (Option String × List α)
  | [] => .ok (value, found)
  | arg :: rest =>
      match Meaning.ofArgument form.option arg with
      | .help => .error .help
      | .unknown => .error .usage
      | .escape => do return (value, ← rest.foldlM form.take found)
      | .plain => do read form value (← form.take found arg) rest
      | .value text => if value.isSome then .error .usage else read form (some text) found rest
      | .awaiting =>
          match rest with
          | [] => .error .usage
          | text :: rest =>
              if value.isSome || !isValue text then .error .usage
              else read form (some text) found rest

end Form

/-- A urn, if the text is one. -/
def urn? (text : String) : Option Urn := (Urn.parse text).toOption

namespace Command

def applyForm : Form String := ⟨none, fun file => if file = "" then none else some file, some 1⟩

def removeForm : Form Urn := ⟨none, urn?, none⟩

def inspectForm : Form Urn := ⟨some ⟨"outgoing", none⟩, urn?, some 1⟩

/-- The names of all commands. -/
def names : List String := ["apply", "remove-entities", "inspect", "help"]

/-- Reads the arguments of the command with the given name. -/
def read (name : String) (args : List String) : Except Refusal Command :=
  match name with
  | "apply" => do
      match ← applyForm.read none [] args with
      | (_, [file]) => .ok (apply file)
      | _ => .error .usage
  | "remove-entities" => do
      match ← removeForm.read none [] args with
      | (_, []) => .error .usage
      | (_, urns) => .ok (removeEntities urns)
  | "inspect" => do
      match ← inspectForm.read none [] args with
      | (outgoing, [urn]) => .ok (inspect urn outgoing)
      | _ => .error .usage
  | "help" =>
      match args with
      | [] => .error .help
      | [name] => .error (if names.contains name then .help else .usage)
      | _ => .error .usage
  | _ => .error .usage

end Command

namespace Arguments

def configOption : OptionName := ⟨"config", some 'c'⟩

/-- Reads the arguments up to the name of the command, and then those of the command. -/
def readFrom (config : Option String) : List String → Except Refusal Arguments
  | [] => .error .usage
  | arg :: rest =>
      match Meaning.ofArgument (some configOption) arg with
      | .help => .error .help
      | .unknown | .escape => .error .usage
      | .plain => do return ⟨config.getD "metagraph", ← Command.read arg rest⟩
      | .value text => if config.isSome then .error .usage else readFrom (some text) rest
      | .awaiting =>
          match rest with
          | [] => .error .usage
          | text :: rest =>
              if config.isSome || !isValue text then .error .usage
              else readFrom (some text) rest

/-- Reads a command line. -/
def read (args : List String) : Except Refusal Arguments := readFrom none args

end Arguments

namespace Refusal

def code : Refusal → UInt32
  | help => 0
  | usage => 2

def synopsis : String := "Usage: metagraph [OPTIONS] <COMMAND>\n"

/-- The text that is printed instead of doing anything. -/
def text : Refusal → String
  | help =>
      "Write entity and relationship records to the metadata graph\n\n" ++ synopsis
        ++ "\nCommands:\n"
        ++ "  apply            Apply a JSON batch of entities and relationships\n"
        ++ "  remove-entities  Delete entities together with all their edges\n"
        ++ "  inspect          Print a node's properties as JSON\n"
        ++ "  help             Print this message or the help of the given subcommand(s)\n"
        ++ "\nOptions:\n"
        ++ "  -c, --config <CONFIG>  Config file prefix (default: metagraph) "
        ++ "[default: metagraph]\n"
        ++ "  -h, --help             Print help\n"
  | usage =>
      "error: unexpected arguments\n\n" ++ synopsis
        ++ "\nFor more information, try '--help'.\n"

end Refusal

end RecordGraph.Cli
