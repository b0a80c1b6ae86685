import OptionSchema.FilePath
import OptionSchema.FileStore
import OptionSchema.Shell.Tool

/-!
# Locations of programs

Programs are files in certain directories. A name with a slash is a path; any other name is looked
for in the directories of a search path.
-/

namespace OptionSchema.Shell

def programDirectories : List (List String) :=
  [["bin"], ["usr", "bin"]]

def programNames : List String :=
  ["cat", "echo", "false", "head", "printf", "sh", "sleep", "tr", "true"]

def standardPath : String :=
  "/usr/local/sbin:/usr/local/bin:/usr/sbin:/usr/bin:/sbin:/bin"

def deviceNames : List String :=
  ["null", "zero", "full", "random", "urandom", "tty"]

/-- The files of a system: the programs, the devices and a few others. -/
def systemFiles : FileStore where
  directories :=
    [["bin"], ["boot"], ["dev"], ["dev", "fd"], ["dev", "pts"], ["dev", "shm"], ["etc"], ["home"],
      ["lib"], ["lib64"], ["media"], ["mnt"], ["opt"], ["proc"],
      ["root"], ["run"], ["sbin"], ["srv"], ["sys"], ["tmp"], ["usr"], ["usr", "bin"],
      ["usr", "include"], ["usr", "lib"], ["usr", "local"], ["usr", "local", "bin"],
      ["usr", "local", "sbin"], ["usr", "sbin"], ["usr", "share"], ["usr", "src"], ["var"],
      ["var", "cache"], ["var", "lib"], ["var", "log"], ["var", "tmp"]]
  files :=
    programDirectories.flatMap (fun directory =>
      programNames.map fun name => (directory ++ [name], ⟨#[127]⟩)) ++
    (deviceNames.map fun name => (["dev", name], .empty)) ++
    (["passwd", "group", "hosts", "hostname", "fstab"].map fun name => (["etc", name], ⟨#[10]⟩))
  refusals :=
    [(["dev", "tty"], .other (some 6) "No such device or address"), (["proc"], .noSuchFile),
      (["sys"], .permissionDenied)]

def locate (files : FileStore) (directory : List String) (path : String) :
    Except SystemError String := do
  let place ← files.resolve directory path
  match place.getLast? with
  | some name =>
      if programDirectories.contains place.dropLast && programNames.contains name then return name
      else if files.isDirectory place || (files.read? place).isSome then throw .permissionDenied
      else throw .noSuchFile
  | none => throw .permissionDenied

/-- Looks for a name in directories. One that cannot be run is remembered while a later directory
may still have another one. -/
def searchIn (files : FileStore) (directory : List String) (name : String) (found : SystemError) :
    List String → Except SystemError String
  | [] => .error found
  | path :: rest =>
      match locate files directory (FilePath.join path name) with
      | .ok program => .ok program
      | .error .noSuchFile => searchIn files directory name found rest
      | .error .notADirectory => searchIn files directory name found rest
      | .error .permissionDenied => searchIn files directory name .permissionDenied rest
      | .error cause => .error cause

def findProgram (files : FileStore) (directory : List String) (searchPath name : String) :
    Except SystemError String :=
  if name.toList.contains '/' then locate files directory name
  else if name.isEmpty then .error .noSuchFile
  else
    let paths := (Text.cut (· == ':') searchPath.toList).map String.ofList
    searchIn files directory name .noSuchFile paths

end OptionSchema.Shell
