namespace ChatArchive

-- Why a path could not be opened or read.
inductive IoError where
  | notFound
  | isDirectory
  | notDirectory
  deriving Repr, DecidableEq

def IoError.text : IoError → String
  | .notFound => "No such file or directory (os error 2)"
  | .isDirectory => "Is a directory (os error 21)"
  | .notDirectory => "Not a directory (os error 20)"

-- What opening a path and reading it to its end gives.
inductive Reading where
  -- the path could not be opened
  | unopened (e : IoError)
  -- the path opened, but reading it failed
  | unread (e : IoError)
  | bytes (b : ByteArray)

-- What a path names.
inductive Entry where
  | file (bytes : ByteArray)
  | directory

-- Files and directories under a working directory.
structure Disk where
  -- the absolute name of the working directory
  home : String
  -- each file by its components under the working directory
  files : List (List String × ByteArray)
  -- directories made apart from those that hold files
  dirs : List (List String)

namespace Disk

-- The components of a path under the working directory, after `.` and `..` are applied to
-- `base`, or nothing when the path leaves it.
def walk : List String → List String → Option (List String)
  | base, [] => some base
  | base, c :: more =>
    if c == "" || c == "." then walk base more
    else if c == ".." then
      match base.dropLast, base with
      | _, [] => none
      | up, _ => walk up more
    else walk (base ++ [c]) more

def locate (d : Disk) (path : String) : Option (List String) :=
  if path == d.home then some []
  else if path.startsWith (d.home ++ "/") then walk [] ((path.drop (d.home.length + 1)).toString.splitOn "/")
  else if path.startsWith "/" then none
  else walk [] (path.splitOn "/")

def fileAt (d : Disk) (p : List String) : Option ByteArray :=
  (d.files.find? (·.1 == p)).map (·.2)

def isDirectory (d : Disk) (p : List String) : Bool :=
  p.isEmpty || d.dirs.contains p ||
    d.files.any (fun f => f.1.length > p.length && f.1.take p.length == p) ||
    d.dirs.any (fun q => q.length > p.length && q.take p.length == p)

def throughFile (d : Disk) (p : List String) : Bool :=
  (List.range p.length).any fun n => n > 0 && (d.fileAt (p.take n)).isSome

-- What a path names, or why it names nothing.
def find (d : Disk) (path : String) : Except IoError Entry :=
  match d.locate path with
  | none => .error .notFound
  | some p =>
    if d.throughFile p then .error .notDirectory
    else match d.fileAt p with
      | some b => .ok (.file b)
      | none => if d.isDirectory p then .ok .directory else .error .notFound

def read (d : Disk) (path : String) : Reading :=
  match d.find path with
  | .error e => .unopened e
  | .ok .directory => .unread .isDirectory
  | .ok (.file b) => .bytes b

def parentExists (d : Disk) (p : List String) : Bool :=
  !d.throughFile p && d.isDirectory p.dropLast

def make (home : String) (files : List (String × ByteArray)) (dirs : List String) : Disk :=
  ⟨home, files.filterMap (fun (path, b) => (walk [] (path.splitOn "/")).map (·, b)),
    dirs.filterMap fun path => walk [] (path.splitOn "/")⟩

def write (d : Disk) (p : List String) (b : ByteArray) : Disk :=
  { d with files := d.files.filter (·.1 != p) ++ [(p, b)] }

end Disk

def joinPath (base name : String) : String :=
  if name.startsWith "/" || base.isEmpty then name
  else if base.endsWith "/" then base ++ name
  else base ++ "/" ++ name

end ChatArchive
