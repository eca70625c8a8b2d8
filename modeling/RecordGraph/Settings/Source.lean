import RecordGraph.Double.Text
import RecordGraph.Files
import RecordGraph.Settings.Convert

/-!
# Where settings come from

Settings come from a file, if there is one, and from the variables of the environment whose
names say so.
-/

namespace RecordGraph

/-- Variables of the environment by name. -/
abbrev Environment := List (String × String)

/-- The variables of a block of definitions that are ended by a null character each. -/
def Environment.ofBlock (block : String) : Environment :=
  (block.splitOn "\x00").filterMap fun definition =>
    let cs := definition.toList
    match cs.dropWhile (· ≠ '=') with
    | [] => none
    | _ :: value => some (String.ofList (cs.takeWhile (· ≠ '=')), String.ofList value)

namespace Settings

/-- The formats of files with settings. -/
inductive Format
  | toml
  | json
deriving DecidableEq, Repr

namespace Format

def ofExtension? (extension : String) : Option Format :=
  if extension = "toml" then some toml else if extension = "json" then some json else none

/-- What follows the last point of a name that does not begin with it. -/
def extension (name : String) : String :=
  let reversed := name.toList.reverse
  let after := reversed.takeWhile (· ≠ '.')
  match reversed.dropWhile (· ≠ '.') with
  | [] | ['.'] => ""
  | _ => String.ofList after.reverse

/-- The fields of a file in the given format. -/
def fields? (origin content : String) : Format → Option (List (String × Node))
  | toml => (Toml.ofText? content).map (Node.ofTomlFields (some origin))
  | json =>
      match Json.ofText? content with
      | some (.obj fields) => some (Node.ofJsonFields (some origin) fields)
      | _ => none

end Format

/-- The paths at which the file that a name means may stand: the name itself, and the name
with an extension. -/
def candidates (name : String) : List (String × Option Format) :=
  let plain := Files.plain name
  let last := (Files.parts name).getLastD ""
  if last = "" then []
  else [(name, Format.ofExtension? (Format.extension last)),
    (plain ++ ".toml", some .toml), (plain ++ ".json", some .json)]

/-- The first path with a file. If its format is unknown, it stands in the way of all
others. -/
def findFile (files : Files) :
    List (String × Option Format) → Option (String × String × Format)
  | [] => none
  | (path, format) :: rest =>
      match files path with
      | .ok content => format.map (Files.plain path, content, ·)
      | .error _ => findFile files rest

/-- The text without the mark that tells its byte order. -/
def withoutMark (content : String) : String :=
  match content.toList with
  | '\ufeff' :: rest => String.ofList rest
  | _ => content

/-- The settings in the file that a name means; a missing file has none. -/
def fileFields (files : Files) (name : String) : Except LoadError (List (String × Node)) :=
  match findFile files (candidates name) with
  | none => .ok []
  | some (origin, content, format) =>
      match format.fields? origin (withoutMark content) with
      | some fields => .ok fields
      | none => .error .unreadable

/-- The value of a variable: a truth value, a whole number, a number or a text. -/
def variableValue (text : String) : Scalar :=
  let word := String.ofList (text.toList.map Char.toLower)
  if word = "true" then .bool true
  else if word = "false" then .bool false
  else
    match (Numeral.signed? text.toList).bind Numeral.word? with
    | some i => .int i
    | none =>
        match Double.ofText? text with
        | some x => .float x
        | none => .str text

/-- The start of the names of all variables with settings, in lower case. -/
def variableMark : String := "metagraph__"

/-- Puts a point for every double underscore. -/
def withPoints : List Char → List Char
  | '_' :: '_' :: rest => '.' :: withPoints rest
  | c :: rest => c :: withPoints rest
  | [] => []

/-- The path that a variable means: its name in lower case without the mark, with points for
double underscores. -/
def variablePath? (name : String) : Option String :=
  let cs := (Node.lowerKey name).toList
  if variableMark.toList.isPrefixOf cs then
    some (String.ofList (withPoints (cs.drop variableMark.length)))
  else none

/-- The settings in the environment. -/
def environmentFields (environment : Environment) : List (String × Node) :=
  environment.filterMap fun (name, text) =>
    (variablePath? name).map fun path =>
      (path, .leaf (some "the environment") (variableValue text))

end Settings

end RecordGraph
