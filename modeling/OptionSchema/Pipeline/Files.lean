import OptionSchema.FileStore
import OptionSchema.Logging
import OptionSchema.Pipeline.Run

/-!
# Runs that write a file

The output of a run is written to a directory, which is created if it does not exist. Logging is set
up before anything else, and the evaluator is run as a program.
-/

namespace OptionSchema.Pipeline

def writeOutput (store : FileStore) (directory : List String) (output : Output) :
    Except SystemError FileStore :=
  (store.createDirectories directory).write directory output.fileName output.contents

inductive WriteError where
  | logging (cause : Logging.LoggingError)
  | run (cause : RunError)
  | file (cause : SystemError)

/-- Runs the configured evaluator in a working directory and writes the output to a directory of a
store. The log file is one of the system that the evaluator runs in. Gives the output and the store
with its file. -/
def runToDirectory (config : Config.Configuration) (programs : Evaluation.Programs)
    (start : Evaluation.WorkingDirectory) (system store : FileStore) (directory : List String) :
    Except WriteError (Output × FileStore) := do
  let logFile (path : String) : Except SystemError Unit :=
    (system.fileAt [] path).map fun _ => ()
  let _ ← (Logging.start config.logging logFile).mapError .logging
  let provider ←
    (commandProvider config.evaluator).mapError fun cause => .run (.evaluation cause)
  let evaluate (request : Evaluation.Request) := (provider.outcome programs start none request).1
  let output ← (run config evaluate).mapError .run
  let store ← (writeOutput store directory output).mapError .file
  return (output, store)

end OptionSchema.Pipeline
