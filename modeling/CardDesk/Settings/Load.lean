import CardDesk.Document.Ini
import CardDesk.Document.Json
import CardDesk.Document.Ron
import CardDesk.Document.Yaml
import CardDesk.Settings.Environment
import CardDesk.Settings.Reading
import CardDesk.Toml.Read

/-!
The settings of the desk from all their sources. Of the sources that have a setting the last one
counts: the file of defaults, the file of the mode, the environment, and a variable of its own for
the address of the database.
-/

namespace CardDesk.Settings

abbrev Path := List String

structure Folder where
  files : List (Path × String)

namespace Folder

def parts (path : String) : Path :=
  ((path.toList.splitOn '/').map String.ofList).filter fun part => part ≠ "" && part ≠ "."

def ofFiles (files : List (String × String)) : Folder :=
  ⟨files.map fun (path, text) => (parts path, text)⟩

def isDirectory (f : Folder) (path : Path) : Bool :=
  f.files.any fun (p, _) => path.length < p.length && path.isPrefixOf p

def follow (f : Folder) : Path → Path → Option Path
  | here, [] => some here
  | here, part :: rest =>
    if part = ".." then (if here.isEmpty then none else f.follow here.dropLast rest)
    else if rest.isEmpty then some (here ++ [part])
    else if f.isDirectory (here ++ [part]) then f.follow (here ++ [part]) rest
    else none

def text? (f : Folder) (path : Path) : Option String := do
  let place ← f.follow [] path
  f.files.lookup place

end Folder

inductive Format where
  | toml
  | json
  | yaml
  | ini
  | ron
  | json5
  deriving DecidableEq, Repr

def extensions : List (String × Format) :=
  [("toml", .toml), ("json", .json), ("yaml", .yaml), ("yml", .yaml), ("ini", .ini),
    ("ron", .ron), ("json5", .json5)]

def tableOnly : Document → Option Document.Members
  | .table members => some members
  | _ => none

def Format.read? (format : Format) (text : String) : Option Document.Members :=
  match format with
  | toml => Toml.read? text
  | json => (Json.document? text).bind tableOnly
  | yaml => (Yaml.document? text).bind tableOnly
  | ini => Ini.members? text
  | ron => (Ron.document? text).bind tableOnly
  | json5 => (Json5.document? text).bind tableOnly

def extension? (name : String) : Option String :=
  match name.splitOn "." with
  | [] => none
  | [_] => none
  | ["", _] => none
  | parts => parts.getLast?

structure Source where
  path : String
  format : Format
  text : String

def writePath (path : Path) : String :=
  "/".intercalate path

def namesDirectory (path : String) : Bool :=
  path.endsWith "/" || path.endsWith "/."

def extended? (f : Folder) (directory : Path) (name : String) : Option Source :=
  extensions.findSome? fun (extension, format) =>
    let path := directory ++ [name ++ "." ++ extension]
    (f.text? path).map fun text => ⟨writePath path, format, text⟩

def source? (f : Folder) (name : String) : Option Source :=
  let path := Folder.parts name
  match path.getLast? with
  | none => none
  | some last =>
    if last = ".." then none
    else
      match (if namesDirectory name then none else f.text? path) with
      | some text => do
        let format ← extensions.lookup (← extension? last)
        return ⟨writePath path, format, text⟩
      | none => extended? f path.dropLast last

def candidates (name : String) : List String :=
  let path := writePath (Folder.parts name)
  path :: extensions.map fun (extension, _) => path ++ "." ++ extension

def withoutMark (text : String) : String :=
  String.ofList (Scan.dropMark text.toList)

def fileLayer (f : Folder) (name : String) : Result Layer :=
  match source? f name with
  | none => .ok []
  | some source =>
    match source.format.read? (withoutMark source.text) with
    | none => .error (.unreadable source.path)
    | some members => .ok (Tree.ofMembers (some source.path) members)

def defaultFile : String := "config/default"

def modeFile (env : Environment) : String :=
  "config/" ++ (env.lookup "RUN_MODE").getD "development"

def addressLayer (env : Environment) : Layer :=
  match env.lookup "DATABASE_URL" with
  | none => []
  | some url => [("database.url", .scalar none (.text url))]

def merge (layers : List Layer) : Tree :=
  layers.foldl (fun t layer => layer.apply t) (.table none [])

def load (env : Environment) (f : Folder) : Result Settings := do
  let defaults ← fileLayer f defaultFile
  let mode ← fileLayer f (modeFile env)
  read (merge [defaults, mode, env.layer, addressLayer env])

end CardDesk.Settings
