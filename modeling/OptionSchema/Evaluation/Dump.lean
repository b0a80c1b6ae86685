import OptionSchema.Evaluation.Command

/-!
# Dumps made beforehand

A dump provider answers every request with the same bytes.
-/

namespace OptionSchema.Evaluation

structure DumpProvider where
  bytes : ByteArray

namespace DumpProvider

/-- The provider of the contents of a file; there is none if the file is missing. -/
def fromFile (contents? : Option ByteArray) : Except EvaluationError DumpProvider :=
  match contents? with
  | none => .error (.io .noSuchFile)
  | some bytes => .ok ⟨bytes⟩

def evaluate (provider : DumpProvider) (_ : Request) : Except EvaluationError ByteArray :=
  .ok provider.bytes

def describe (provider : DumpProvider) : String :=
  s!"static dump ({Text.decimal provider.bytes.size} bytes)"

end DumpProvider

end OptionSchema.Evaluation
