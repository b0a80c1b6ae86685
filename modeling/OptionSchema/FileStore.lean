import OptionSchema.FilePath
import OptionSchema.SystemError
import OptionSchema.Text.Piece

/-!
# File stores

A store has directories and files below one root. A place in it is the list of the names that lead
there. Paths are resolved name by name, from the root if they are absolute: every name but the last
has to be that of a directory. Some places refuse files.
-/

namespace OptionSchema

/-- The directories of a store, apart from its root, its files with their contents, and the files
that cannot be opened and directories in which no file can be created, with the reasons. -/
structure FileStore where
  directories : List (List String)
  files : List (List String × ByteArray)
  refusals : List (List String × SystemError)

namespace FileStore

def empty : FileStore :=
  ⟨[], [], []⟩

def isDirectory (store : FileStore) (place : List String) : Bool :=
  place.isEmpty || store.directories.contains place

def read? (store : FileStore) (place : List String) : Option ByteArray :=
  store.files.lookup place

/-- The store with directories at a place and at every place on the way there. -/
def createDirectories (store : FileStore) (place : List String) : FileStore :=
  let places := (List.range place.length).map fun n => place.take (n + 1)
  { store with directories := store.directories ++ places.filter (!store.isDirectory ·) }

def longestName : Nat :=
  255

def stepInto (store : FileStore) (directory : List String) (name : String) :
    Except SystemError (List String) :=
  if (store.read? directory).isSome then .error .notADirectory
  else if !store.isDirectory directory then .error .noSuchFile
  else if name == "" || name == "." then .ok directory
  else if name == ".." then .ok directory.dropLast
  else if longestName < name.utf8ByteSize then .error .nameTooLong
  else .ok (directory ++ [name])

def longestPath : Nat :=
  4095

def pathSize (directory : List String) (path : String) : Nat :=
  (FilePath.join ("/".intercalate directory) path).utf8ByteSize

/-- What is wrong with a path wherever it leads. -/
def pathFault? (directory : List String) (path : String) : Option SystemError :=
  if path.toList.contains '\x00' then some .nulInPath
  else if path.isEmpty then some .noSuchFile
  else if longestPath < pathSize directory path then some .nameTooLong
  else none

def resolve (store : FileStore) (directory : List String) (path : String) :
    Except SystemError (List String) :=
  let start := if FilePath.isAbsolute path then [] else directory
  match pathFault? directory path with
  | some cause => .error cause
  | none => ((Text.cut (· == '/') path.toList).map String.ofList).foldlM store.stepInto start

/-- Why the file at a place cannot be opened, or created if it does not exist. -/
def refusal? (store : FileStore) (place : List String) : Option SystemError :=
  if (store.read? place).isSome then store.refusals.lookup place
  else store.refusals.lookup place.dropLast

/-- The place of the file that a path leads to, which need not exist. A path that ends with a slash
does not lead to a file. -/
def fileAt (store : FileStore) (directory : List String) (path : String) :
    Except SystemError (List String) := do
  let reversed := path.toList.reverse
  let bare := reversed.dropWhile (· == '/')
  match pathFault? directory path with
  | some cause => throw cause
  | none => pure ()
  if bare.length < reversed.length then
    let above := String.ofList (bare.dropWhile (· != '/')).reverse
    let _ ← store.resolve directory (above ++ ".")
    throw .isADirectory
  let place ← store.resolve directory path
  if store.isDirectory place then throw .isADirectory
  match store.refusal? place with
  | some cause => throw cause
  | none => return place

def put (store : FileStore) (place : List String) (bytes : ByteArray) : FileStore :=
  { store with files := (place, bytes) :: store.files.filter (·.1 != place) }

def write (store : FileStore) (directory : List String) (path : String) (bytes : ByteArray) :
    Except SystemError FileStore := do
  return store.put (← store.fileAt directory path) bytes

def namesIn (store : FileStore) (directory : List String) : List String :=
  let places := store.directories ++ store.files.map Prod.fst
  ((places.filter fun place => !place.isEmpty && place.dropLast == directory).filterMap
    List.getLast?).mergeSort (fun first second => first ≤ second)

end FileStore

end OptionSchema
