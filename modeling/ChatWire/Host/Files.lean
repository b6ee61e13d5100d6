namespace ChatWire.Host

/-- An operating system error, as its message and code. -/
structure OsError where
  message : String
  code : Nat
deriving DecidableEq, Inhabited

namespace OsError

/-- The text of an error: `message (os error code)`. -/
def text (e : OsError) : String :=
  e.message ++ " (os error " ++ toString e.code ++ ")"

/-- Nothing is at the path. -/
def notFound : OsError := ⟨"No such file or directory", 2⟩

/-- The path is a directory where a file was wanted. -/
def isDirectory : OsError := ⟨"Is a directory", 21⟩

/-- A file stands where a directory was wanted. -/
def notDirectory : OsError := ⟨"Not a directory", 20⟩

/-- Something already stands at the path. -/
def exists_ : OsError := ⟨"File exists", 17⟩

end OsError

/-- What stands at a path. -/
inductive Entry where
  | file (text : String)
  | directory
deriving DecidableEq, Inhabited

/-- Files and directories by absolute path, and the working directory. -/
structure Files where
  files : List (String × String) := []
  directories : List String := ["/"]
  workingDirectory : String := "/"
deriving Inhabited

namespace Files

/-- The names in a path, in order; empty names (from repeated or trailing slashes)
    are left out, `.` and `..` are kept. -/
def names (path : String) : List String :=
  (path.splitOn "/").filter (· != "")

/-- The absolute path of a list of names below the root. -/
def render (names : List String) : String :=
  "/" ++ "/".intercalate names

/-- What stands at the absolute path with these names. -/
def entry (fs : Files) (at_ : List String) : Option Entry :=
  let path := render at_
  match fs.files.lookup path with
  | some text => some (.file text)
  | none => if at_.isEmpty || fs.directories.contains path then some .directory else none

/-- Follows names from an existing entry, the way the system resolves a path: each
    name but the last must lead to a directory; `.` stays, `..` goes up (the root is
    its own parent). Gives the names of the entry reached. -/
def follow (fs : Files) (at_ : List String) : List String → Except OsError (List String)
  | [] => .ok at_
  | n :: rest =>
    if fs.entry at_ != some .directory then .error .notDirectory
    else if n == "." then follow fs at_ rest
    else if n == ".." then follow fs at_.dropLast rest
    else if (fs.entry (at_ ++ [n])).isNone then .error .notFound
    else follow fs (at_ ++ [n]) rest

/-- Where a path starts: the root for an absolute path, else the working directory. -/
def start (fs : Files) (path : String) : List String :=
  if path.startsWith "/" then [] else names fs.workingDirectory

/-- The names of the entry a path leads to. An empty path leads nowhere, and a path
    that ends in a slash must lead to a directory. -/
def locate (fs : Files) (path : String) : Except OsError (List String) :=
  if path.isEmpty then .error .notFound
  else fs.follow (fs.start path) (names path ++ (if path.endsWith "/" then ["."] else []))

/-- The absolute form of a path with `.` and `..` taken away by their meaning alone,
    without looking at the entries. -/
def absolute (fs : Files) (path : String) : String :=
  render ((names path).foldl (fun acc n =>
    if n == "." then acc else if n == ".." then acc.dropLast else acc ++ [n]) (fs.start path))

/-- Whether a directory is at a path. -/
def isDirectory (fs : Files) (path : String) : Bool :=
  match fs.locate path with
  | .ok at_ => fs.entry at_ == some .directory
  | .error _ => false

/-- Whether anything is at a path. -/
def pathExists (fs : Files) (path : String) : Bool :=
  (fs.locate path).toBool

/-- The text of the file at a path. -/
def read (fs : Files) (path : String) : Except OsError String := do
  let at_ ← fs.locate path
  match fs.entry at_ with
  | some (.file text) => .ok text
  | _ => .error .isDirectory

/-- The directories from the root down to an absolute path, the path included. -/
def prefixes (path : String) : List String :=
  let parts := names path
  (List.range parts.length).map fun i => render (parts.take (i + 1))

/-- Creates one directory. Its parent must be a directory, and nothing may stand
    at the path yet. -/
def makeDirectory (fs : Files) (path : String) : Except OsError Files := do
  if path.isEmpty then throw .notFound
  let ns := names path
  match ns.getLast? with
  | none => throw .exists_
  | some last =>
    let parent ← fs.follow (fs.start path) ns.dropLast
    if fs.entry parent != some .directory then throw .notDirectory
    if last == "." || last == ".." || (fs.entry (parent ++ [last])).isSome then throw .exists_
    return { fs with directories := fs.directories ++ [render (parent ++ [last])] }

/-- The names of a path as a path of its own: a `.` in front is kept, every other
    `.` is dropped. -/
def components (path : String) : List String :=
  let ns := names path
  let inner := ns.filter (· != ".")
  if !path.startsWith "/" && ns.head? == some "." then "." :: inner else inner

/-- Creates a directory and every missing directory above it, for a path given by
    its names in reverse order. A directory is created only after its parent was
    found missing; an error leaves no harm when a directory stands there anyway. -/
def createReversed (fs : Files) (root : Bool) : List String → Except OsError Files
  | [] => .ok fs
  | n :: above =>
    let path := (if root then "/" else "") ++ "/".intercalate (n :: above).reverse
    match fs.makeDirectory path with
    | .ok fs => .ok fs
    | .error e =>
      if e == .notFound then
        match createReversed fs root above with
        | .error e => .error e
        | .ok fs =>
          match fs.makeDirectory path with
          | .ok fs => .ok fs
          | .error e => if fs.isDirectory path then .ok fs else .error e
      else if fs.isDirectory path then .ok fs else .error e

/-- Creates a directory and every missing directory above it. -/
def createDirAll (fs : Files) (path : String) : Except OsError Files :=
  fs.createReversed (path.startsWith "/") (components path).reverse

/-- Writes a file, creating no directory. -/
def write (fs : Files) (path text : String) : Files :=
  let full := fs.absolute path
  { fs with files := (fs.files.filter (·.1 != full)) ++ [(full, text)] }

end Files

/-- Environment variables. -/
abbrev Environment := List (String × String)

end ChatWire.Host
