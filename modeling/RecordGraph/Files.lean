/-!
# Files

What reading a path gives: a text, or the reason why there is none.
-/

namespace RecordGraph

/-- Why a path cannot be read. -/
inductive FileFault
  | missing
  | directory
  /-- A file stands where the path has a directory. -/
  | notADirectory
  | denied
  /-- The file holds no text. -/
  | notText
deriving DecidableEq, Repr

def FileFault.message : FileFault → String
  | missing => "No such file or directory (os error 2)"
  | directory => "Is a directory (os error 21)"
  | notADirectory => "Not a directory (os error 20)"
  | denied => "Permission denied (os error 13)"
  | notText => "stream did not contain valid UTF-8"

/-- The files that can be read, by their paths. -/
abbrev Files := String → Except FileFault String

namespace Files

/-- The pieces of a text between slashes. -/
def pieces : List Char → List (List Char)
  | [] => [[]]
  | c :: rest =>
      match pieces rest with
      | [] => [[c]]
      | piece :: others => if c = '/' then [] :: piece :: others else (c :: piece) :: others

/-- The parts of a path that lead somewhere. -/
def parts (path : String) : List String :=
  ((pieces path.toList).map String.ofList).filter fun part => part ≠ "" && part ≠ "."

/-- Whether a path begins at the root of all directories. -/
def isRooted (path : String) : Bool := path.toList.head? = some '/'

/-- A path without the parts that lead nowhere. -/
def plain (path : String) : String :=
  (if isRooted path then "/" else "") ++ "/".intercalate (parts path)

/-- Whether a path can only name a directory. -/
def isDirectoryPath (path : String) : Bool :=
  path.endsWith "/" || path.endsWith "/." || path = "." || path = ""

/-- The files of a directory and of those in it; nothing is known of any other. -/
def ofList (entries : List (String × String)) : Files := fun path =>
  let find (parts : List String) : Option String :=
    (entries.find? fun entry => Files.parts entry.1 = parts).map Prod.snd
  let wanted := parts path
  let within (entry : String × String) : Bool :=
    wanted.isPrefixOf (parts entry.1) && wanted.length < (parts entry.1).length
  if path = "" || isRooted path then .error .missing
  else if wanted.isEmpty || entries.any within then .error .directory
  else if (List.range wanted.length).any fun n => (find (wanted.take n)).isSome then
    .error .notADirectory
  else
    match find wanted with
    | none => .error .missing
    | some text => if isDirectoryPath path then .error .notADirectory else .ok text

end Files

end RecordGraph
