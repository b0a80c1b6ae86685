import OptionSchema.Config.Basic
import OptionSchema.FilePath

/-!
# Locations

Where the configuration file is looked for, and where output goes.
-/

namespace OptionSchema.Config

/-- The directory that output is written to: the configured one, else the one that the environment
names, else the working directory. -/
def CodegenSettings.outputDirectory (settings : CodegenSettings) (environment? : Option String) :
    String :=
  match settings.outputDir? with
  | some directory => directory
  | none => environment?.getD FilePath.workingDirectory

/-- The path of the configuration file of a user: below the configuration directory if that is an
absolute path, else below the home directory. -/
def defaultPath (configHome? : Option String) (home : String) : String :=
  let directory :=
    match configHome?.filter FilePath.isAbsolute with
    | some directory => directory
    | none => FilePath.join home ".config"
  FilePath.join (FilePath.join directory "modgen") "config.toml"

end OptionSchema.Config
