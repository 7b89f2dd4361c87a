import CiWorkflow.Config.File

set_option autoImplicit false

namespace CiWorkflow

/-- A path as it is written, without empty names and dots. -/
structure Path where
  /-- One or two slashes for a path from the top of the file system. -/
  root : String
  names : List String
  deriving DecidableEq, Repr

namespace Path

def rootOf : List Char → String
  | '/' :: '/' :: '/' :: _ => "/"
  | '/' :: '/' :: _ => "//"
  | '/' :: _ => "/"
  | _ => ""

def ofText (s : String) : Path :=
  ⟨rootOf s.toList, (s.splitOn "/").filter fun name => name != "" && name != "."⟩

def text (p : Path) : String :=
  if p.root == "" && p.names.isEmpty then "." else p.root ++ "/".intercalate p.names

def parent (p : Path) : Path := { p with names := p.names.dropLast }

end Path

/-- The names that lead from the working directory to a place. Above the directory they begin with
two dots, and at the top of the file system with a slash. -/
abbrev Location := List String

inductive FileError where
  | isDirectory (path : String)
  | exists (path : String)
  | notDirectory (path : String)
  | missing (path : String)
  | tooLong (path : String)
  deriving DecidableEq, Repr

def FileError.message : FileError → String
  | .isDirectory path => "[Errno 21] Is a directory: " ++ Text.quoted path
  | .exists path => "[Errno 17] File exists: " ++ Text.quoted path
  | .notDirectory path => "[Errno 20] Not a directory: " ++ Text.quoted path
  | .missing path => "[Errno 2] No such file or directory: " ++ Text.quoted path
  | .tooLong path => "[Errno 36] File name too long: " ++ Text.quoted path

structure Files where
  entries : List (Location × FileContent)

namespace Files

def enter (place : Location) (name : String) : Location :=
  if name == ".." then
    match place.getLast? with
    | none | some ".." => place ++ [".."]
    | some "/" => place
    | some _ => place.dropLast
  else place ++ [name]

def isTop (place : Location) : Bool := place.all (· == "..") || place == ["/"]

/-- Directories exist also if only something in them is known. -/
def contentAt (files : Files) (place : Location) : FileContent :=
  if isTop place then .directory
  else match files.entries.lookup place with
    | some content => content
    | none =>
      if files.entries.any fun e => place.isPrefixOf e.1 then .directory else .absent

def longestName : Nat := 255

def longestPath : Nat := 4095

/-- Follows names; all but the last one have to be directories. A name that is too long is noticed
in the directory where it is looked for. -/
def walk (files : Files) (path : String) : Location → List String → Except FileError Location
  | place, [] => .ok place
  | place, name :: rest =>
    match files.contentAt place with
    | .directory =>
      if longestName < name.utf8ByteSize then .error (.tooLong path)
      else walk files path (enter place name) rest
    | .absent => .error (.missing path)
    | .bytes _ => .error (.notDirectory path)

def locate (files : Files) (p : Path) : Except FileError Location :=
  if longestPath < p.text.utf8ByteSize then .error (.tooLong p.text)
  else files.walk p.text (if p.root == "" then [] else ["/"]) p.names

/-- What is found under a path, unless the path is too long. -/
def find (files : Files) (p : Path) : Except FileError FileContent :=
  match files.locate p with
  | .ok place => .ok (files.contentAt place)
  | .error (.tooLong path) => .error (.tooLong path)
  | .error _ => .ok .absent

def isDirectory (files : Files) (s : String) : Bool :=
  s != "" && match files.find (Path.ofText s) with
    | .ok .directory => true
    | _ => false

def put (files : Files) (place : Location) (content : FileContent) : Files :=
  ⟨(place, content) :: files.entries.filter fun e => e.1 != place⟩

theorem contentAt_put (files : Files) {place : Location} (h : isTop place = false)
    (content : FileContent) : (files.put place content).contentAt place = content := by
  simp [contentAt, put, h]

def makeDirectory (files : Files) (p : Path) : Except FileError Files := do
  let place ← files.locate p
  match files.contentAt place with
  | .absent => pure (files.put place .directory)
  | _ => throw (.exists p.text)

/-- What came of an attempt, and the files after it. What was done before a failure stays done. -/
abbrev Attempt : Type := Except FileError Unit × Files

def settle (files : Files) (p : Path) (made : Except FileError Files) : Attempt :=
  match made, files.find p with
  | .ok files, _ => (.ok (), files)
  | .error _, .ok .directory => (.ok (), files)
  | .error e, _ => (.error e, files)

/-- Makes a directory with all that are missing on the way to it. The names are given from the
last to the first. -/
def makeDirectories (files : Files) (root : String) : List String → Attempt
  | [] => (.ok (), files)
  | name :: rest =>
    let p : Path := ⟨root, (name :: rest).reverse⟩
    match files.makeDirectory p with
    | .error (.missing _) =>
      match makeDirectories files root rest with
      | (.ok (), files) => files.settle p (files.makeDirectory p)
      | failed => failed
    | made => files.settle p made

def writeFile (files : Files) (p : Path) (content : String) : Except FileError Files := do
  let place ← files.locate p
  match files.contentAt place with
  | .directory => throw (.isDirectory p.text)
  | _ => pure (files.put place (.bytes content.toUTF8))

def write (files : Files) (p : Path) (content : String) : Attempt :=
  match files.makeDirectories p.root p.parent.names.reverse with
  | (.ok (), files) =>
    match files.writeFile p content with
    | .ok files => (.ok (), files)
    | .error e => (.error e, files)
  | failed => failed

end Files

end CiWorkflow
