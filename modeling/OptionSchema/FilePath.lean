/-!
# File paths

Paths are texts, or bytes where they need not be a text. Joining does not normalize: `.` and `..`
stay where they are.
-/

namespace OptionSchema.FilePath

def isAbsolute (path : String) : Bool :=
  path.toList.head? == some '/'

/-- The units of a path inside a directory. An absolute path stays as it is, and a directory that
ends with a slash, or is empty, gets no other one. -/
def joined {α : Type} [BEq α] (slash : α) (directory path : List α) : List α :=
  if path.head? == some slash || directory.isEmpty then path
  else if directory.getLast? == some slash then directory ++ path
  else directory ++ slash :: path

def join (directory path : String) : String :=
  String.ofList (joined '/' directory.toList path.toList)

def slashByte : UInt8 :=
  0x2F

def startsAtRoot (path : ByteArray) : Bool :=
  path.toList.head? == some slashByte

def joinBytes (directory path : ByteArray) : ByteArray :=
  ⟨(joined slashByte directory.toList path.toList).toArray⟩

def workingDirectory : String :=
  "/"

end OptionSchema.FilePath
