import EndpointScout.Record.Export

/-! A directory tree and the steps by which an export is written into it. -/
namespace EndpointScout

inductive FileError where
  | missing
  | taken
  | notDirectory
  | isDirectory
  | nameTooLong
deriving Repr, DecidableEq

def FileError.message : FileError → Text
  | missing => "No such file or directory (os error 2)".toList
  | taken => "File exists (os error 17)".toList
  | notDirectory => "Not a directory (os error 20)".toList
  | isDirectory => "Is a directory (os error 21)".toList
  | nameTooLong => "File name too long (os error 36)".toList

inductive Node where
  | file (content : Text)
  | directory
deriving Repr, DecidableEq

/-- Places are lists of names from the root; the root itself is always a directory. -/
abbrev Place := List Text

structure Files where
  nodes : List (Place × Node)
deriving Repr

namespace Files

def maxNameBytes : Nat := 255

def node? (fs : Files) (p : Place) : Option Node :=
  if p.isEmpty then some .directory else (fs.nodes.find? fun n => n.1 == p).map (·.2)

def isDirectory (fs : Files) (p : Place) : Bool := fs.node? p == some .directory

def put (fs : Files) (p : Place) (n : Node) : Files :=
  if fs.nodes.any fun m => m.1 == p then
    ⟨fs.nodes.map fun m => if m.1 == p then (p, n) else m⟩
  else ⟨fs.nodes ++ [(p, n)]⟩

def names (working : Place) (path : Text) : List Text :=
  (if path.head? == some '/' then [] else working) ++
    (Text.splitAt '/' path).filter fun n => !n.isEmpty && n != ['.']

def walk (fs : Files) : Place → List Text → Except FileError Place
  | p, [] => .ok p
  | p, name :: rest =>
    if !fs.isDirectory p then .error .notDirectory
    else if name == "..".toList then walk fs p.dropLast rest
    else if Text.Utf8.length name > maxNameBytes then .error .nameTooLong
    else
      let q := p ++ [name]
      if (fs.node? q).isSome then walk fs q rest else .error .missing

def locate (fs : Files) (names : List Text) : Except FileError (Place × Text) := do
  match names.getLast? with
  | none => .error .taken
  | some name =>
    let p ← fs.walk [] names.dropLast
    if !fs.isDirectory p then .error .notDirectory
    else if Text.Utf8.length name > maxNameBytes then .error .nameTooLong
    else .ok (p, name)

def makeDirectory (fs : Files) (names : List Text) : Except FileError Files := do
  let (p, name) ← fs.locate names
  if name == "..".toList || (fs.node? (p ++ [name])).isSome then .error .taken
  else .ok (fs.put (p ++ [name]) .directory)

def leadsToDirectory (fs : Files) (names : List Text) : Bool :=
  match fs.walk [] names with
  | .ok p => fs.isDirectory p
  | .error _ => false

def makeDirectories : Nat → Files → List Text → Except FileError Files
  | 0, fs, _ => .ok fs
  | depth + 1, fs, names =>
    match fs.makeDirectory names with
    | .ok fs => .ok fs
    | .error .missing => do
      let fs ← makeDirectories depth fs names.dropLast
      match fs.makeDirectory names with
      | .ok fs => .ok fs
      | .error e => if fs.leadsToDirectory names then .ok fs else .error e
    | .error e => if fs.leadsToDirectory names then .ok fs else .error e

def writeFile (fs : Files) (names : List Text) (content : Text) : Except FileError Files := do
  if names.isEmpty then .error .isDirectory
  else
    let (p, name) ← fs.locate names
    if name == "..".toList || fs.isDirectory (p ++ [name]) then .error .isDirectory
    else .ok (fs.put (p ++ [name]) (.file content))

/-- Creates or replaces the file that a path names; a path that ends in a slash or a point
names a directory. -/
def writePath (fs : Files) (working : Place) (path content : Text) : Except FileError Files :=
  if path.isEmpty then .error .missing
  else match (Text.splitAt '/' path).getLast? with
    | some [] => .error .isDirectory
    | some ['.'] => do
      let p ← fs.walk [] (names working path)
      .error (if fs.isDirectory p then .isDirectory else .notDirectory)
    | _ => fs.writeFile (names working path) content

def exportRecords (fs : Files) (working : Place) (path : Text) (records : List Record) :
    Files × Except FileError ExportFormat :=
  let format := ExportFormat.ofPath path
  let parent := (names working path).dropLast
  match (if parent == working then .ok fs else makeDirectories parent.length fs parent) with
  | .error e => (fs, .error e)
  | .ok fs =>
    match fs.writePath working path (format.render records) with
    | .ok fs => (fs, .ok format)
    | .error e => (fs, .error e)

def below (fs : Files) (p : Place) : List (Text × Text) :=
  fs.nodes.filterMap fun n =>
    match n.2 with
    | .file content =>
      if p.isPrefixOf n.1 && p.length < n.1.length then
        some (Text.join ['/'] (n.1.drop p.length), content)
      else none
    | .directory => none

end Files

def expandHome (home path : Text) : Text :=
  match path with
  | ['~'] => home
  | '~' :: '/' :: rest => home ++ '/' :: rest
  | _ => path

end EndpointScout
