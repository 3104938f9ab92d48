import DiagTrace.CommandLine.Run

/-!
A directory in memory. It gives a run its file operations, so that a run over a directory is a function of
what the files hold and of the words of the command line.
-/
namespace DiagTrace.CommandLine

/-- Files, each under the names of the folders that lead to it and its own. -/
structure Directory where
  files : List (List String × Bytes)

namespace Directory

def ofFiles (files : List (String × Bytes)) : Directory :=
  ⟨files.map fun (path, content) => (path.splitOn "/", content)⟩

/-- Whether there is a folder: the directory itself, or one in which a file lies. -/
def hasFolder (directory : Directory) (names : List String) : Bool :=
  names.isEmpty ||
    directory.files.any fun file => names.isPrefixOf file.1 && names.length < file.1.length

/-- One step of a path out of a folder. A dot stays there, as does a step without a name; two dots go back,
but not out of the directory. No name has more than 255 bytes. -/
def step (directory : Directory) (names : List String) (name : String) : Option (List String) :=
  if !directory.hasFolder names || 255 < name.utf8ByteSize then none
  else if name.isEmpty || name == "." then some names
  else if name == ".." then (if names.isEmpty then none else some names.dropLast)
  else some (names ++ [name])

/-- Where a path leads, whether or not anything is there. A path without a first name leads out of the
directory or nowhere. -/
def resolve? (directory : Directory) (path : String) : Option (List String) :=
  match path.splitOn "/" with
  | "" :: _ => none
  | steps => steps.foldlM directory.step []

def read? (directory : Directory) (path : String) : Option Bytes :=
  (directory.resolve? path).bind fun names => directory.files.lookup names

/-- Puts a text into a file, in place of what the file held; false where a file cannot be. -/
def write (directory : Directory) (path text : String) : Bool × Directory :=
  match directory.resolve? path with
  | some names =>
    if directory.hasFolder names then (false, directory)
    else (true, ⟨(names, Utf8.encode text) :: directory.files.filter fun file => file.1 != names⟩)
  | none => (false, directory)

def operations : Files (StateM Directory) where
  read path := do return (← get).read? path
  write path text := modifyGet fun directory => directory.write path text

end Directory

end DiagTrace.CommandLine
