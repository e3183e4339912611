/-!
# Files by their paths

* `FileFault` : why a file cannot be opened;
* `Place` : where a path leads to, counted from the top or from the directory at hand;
* `Directory` : the texts of files by their paths. Of what lies outside the directory at hand only
  that is known which every system has;
* `Directory.parent?` : the directory that the last name of a path is looked up in. Every name
  before the last one has to lead to a directory, and the first that does not is the fault;
* `Directory.read`, `Directory.create` : the text of a file, and a new empty file.
-/

namespace TopDown.Command

/-- Why a file cannot be opened. -/
inductive FileFault where
  | missing
  | isDirectory
  | notDirectory
  | nameTooLong
  | other (message : String)
  deriving DecidableEq

def FileFault.message : FileFault → String
  | missing => "No such file or directory (os error 2)"
  | notDirectory => "Not a directory (os error 20)"
  | isDirectory => "Is a directory (os error 21)"
  | nameTooLong => "File name too long (os error 36)"
  | other message => message

/-! ## Places -/

/-- Where a path leads to. -/
inductive Place where
  | top
  /-- The directory at hand, or one so many levels above it. -/
  | above (levels : Nat)
  | within (directory : Place) (name : String)
  deriving DecidableEq

namespace Place

/-- The directory at hand. -/
def here : Place := above 0

/-- The directory that a place lies in. Nothing lies above the top. -/
def outer : Place → Place
  | top => top
  | above levels => above (levels + 1)
  | within directory _ => directory

/-- Where a name leads to from a directory. One dot stays and two go up. -/
def follow (p : Place) (name : String) : Place :=
  if name = "." then p else if name = ".." then p.outer else within p name

/-- Whether a place lies in a directory, at any depth. -/
def isInside (directory : Place) : Place → Bool
  | within d _ => d = directory || isInside directory d
  | _ => false

end Place

/-- Where a path starts. -/
def pathStart (path : String) : Place :=
  if path.toList.head? = some '/' then .top else .here

/-- The names along a path. Several slashes are as good as one. -/
def pathNames (path : String) : List String := (path.splitOn "/").filter (· ≠ "")

def endsInSlash (path : String) : Bool := path.toList.getLast? = some '/'

/-- Where a path leads to if all its names are there. -/
def Place.ofPath (path : String) : Place := (pathNames path).foldl follow (pathStart path)

/-- The number of bytes that a single name may have. -/
def maxNameBytes : Nat := 255

/-- The number of bytes that a whole path may have. -/
def maxPathBytes : Nat := 4095

/-! ## Devices -/

/-- Files that stand for something else than a text. -/
inductive Device where
  /-- Forgets what is written to it. -/
  | sink
  | output
  | diagnostics
  deriving DecidableEq

namespace Device

/-- Where devices lie. -/
def folder : Place := .within .top "dev"

/-- The device at a place. -/
def ofPlace? (p : Place) : Option Device :=
  if p = .within folder "null" then some sink
  else if p = .within folder "stdout" then some output
  else if p = .within folder "stderr" then some diagnostics
  else none

end Device

/-- The directories that every system has below the top. -/
def standardPlaces : List Place := [Device.folder, .within .top "tmp"]

/-! ## Directories -/

/-- The texts of files by their paths. -/
abbrev Directory := List (String × String)

namespace Directory

/-- The text of the file at a place. Nothing can be read from a device. -/
def textAt? (d : Directory) (p : Place) : Option String :=
  if (Device.ofPlace? p).isSome then some ""
  else (d.find? fun (path, _) => Place.ofPath path = p).map Prod.snd

/-- Whether a place is a directory: one that is always there, or one that a file lies in. -/
def isDirectory (d : Directory) : Place → Bool
  | .top | .above _ => true
  | p => decide (p ∈ standardPlaces) || d.any fun (path, _) => p.isInside (Place.ofPath path)

/-- Goes from a directory to one that lies in it or above it. -/
def enter (d : Directory) (p : Place) (name : String) : Except FileFault Place :=
  if maxNameBytes < name.utf8ByteSize then .error .nameTooLong
  else if d.isDirectory (p.follow name) then .ok (p.follow name)
  else if (d.textAt? (p.follow name)).isSome then .error .notDirectory
  else .error .missing

/-- The directory that the last name of a path is looked up in. -/
def parent? (d : Directory) (path : String) : Except FileFault Place :=
  if path = "" then .error .missing
  else if maxPathBytes < path.utf8ByteSize then .error .nameTooLong
  else (pathNames path).dropLast.foldlM d.enter (pathStart path)

/-- The text of a file. A slash behind its name asks for a directory. -/
def read (d : Directory) (path : String) : Except FileFault String := do
  let parent ← d.parent? path
  match (pathNames path).getLast? with
  | none => .error .isDirectory
  | some name =>
    if maxNameBytes < name.utf8ByteSize then .error .nameTooLong
    else if d.isDirectory (parent.follow name) then .error .isDirectory
    else
      match d.textAt? (parent.follow name) with
      | none => .error .missing
      | some text => if endsInSlash path then .error .notDirectory else .ok text

/-- The directory with one file replaced or added. -/
def put (d : Directory) (path text : String) : Directory :=
  (d.filter fun (p, _) => Place.ofPath p ≠ Place.ofPath path) ++ [(path, text)]

/-- Makes a file empty. A slash behind its name asks for a directory, which is not made. -/
def create (d : Directory) (path : String) : Except FileFault Directory := do
  let parent ← d.parent? path
  match (pathNames path).getLast? with
  | none => .error .isDirectory
  | some name =>
    if endsInSlash path then .error .isDirectory
    else if maxNameBytes < name.utf8ByteSize then .error .nameTooLong
    else if d.isDirectory (parent.follow name) then .error .isDirectory
    else if (Device.ofPlace? (parent.follow name)).isSome then .ok d
    else .ok (d.put path "")

end Directory

end TopDown.Command
