import OptionSchema.Codegen.Emitter
import OptionSchema.Codegen.Render

/-!
# Generating a file

A module is turned into one self-contained source file. Nothing is written before the whole tree
has been walked, so a collision leaves nothing behind.
-/

namespace OptionSchema.Codegen

structure GenerateOptions where
  rootType : String
  package : String

def GenerateOptions.standard : GenerateOptions :=
  ⟨"Config", "config"⟩

structure SourceFile where
  package : String
  imports : Imports
  declarations : List Declaration
  source : String
  dependencies : Dependencies
  deriving DecidableEq

/-- Writes the header and the declarations, each after an empty line. -/
def writeFile (package : String) (imports : Imports) (declarations : List Declaration) :
    Except FormatError String := do
  let header ← writeLines "" (headerLines package imports)
  declarations.foldlM (fun text declaration => writeLines text ("" :: declaration.lines)) header

def Emitter.finish (emitter : Emitter) (package : String) : Except CodegenError SourceFile := do
  let source ← (writeFile package emitter.imports emitter.declarations).mapError fun _ => .format
  return ⟨package, emitter.imports, emitter.declarations, source, emitter.dependencies⟩

/-- Generates the file for a module, whose struct has the name of the root type. -/
def generate (options : GenerateOptions) (rules : Naming.Rules) (module : Module) :
    Except CodegenError SourceFile := do
  let (_, emitter) ← (emitModule rules options.rootType [] module).run .start
  emitter.finish options.package

end OptionSchema.Codegen
