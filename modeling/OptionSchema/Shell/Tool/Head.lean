import OptionSchema.Shell.Numeric
import OptionSchema.Shell.Tool.Basic

/-!
# The tool `head`

It keeps the first lines or bytes of files, or all but the last ones. An old way of calling the tool
is a number of lines as the first argument.
-/

namespace OptionSchema.Shell.Tool.Head

/-- How much of each file is kept: so many bytes or lines, or all but so many. -/
structure Amount where
  inBytes : Bool
  fromEnd : Bool
  count : Nat

def Amount.ofOption (option : Char × String) : Except String Amount :=
  let inBytes := option.1 == 'c'
  let what := if inBytes then "bytes" else "lines"
  let (fromEnd, digits) := signed option.2.toList
  match natural? (String.ofList digits) with
  | some count => .ok ⟨inBytes, fromEnd, count⟩
  | none => .error s!"invalid number of {what}: '{option.2}'"

def Amount.keep (amount : Amount) (start : Nat) (flow : Flow) : Flow :=
  match amount.fromEnd, amount.inBytes with
  | false, true => flow.take start amount.count
  | false, false => flow.takeLines start amount.count
  | true, inBytes =>
      let bytes := flow.bytes.toList
      let last := if bytes.getLast?.any (· != 10) then 1 else 0
      let rows := bytes.count 10 + last - amount.count
      let size :=
        if inBytes then bytes.length - amount.count
        else (Flow.lineSize? 0 rows bytes).getD bytes.length
      { flow.take start size with ending := flow.ending }

/-- What is left of an input that is kept in part. Bytes are read one by one; where lines are
counted, all that is there has been read. -/
def Amount.leave (amount : Amount) (start : Nat) (flow : Flow) : Flow :=
  if amount.inBytes && !amount.fromEnd then flow.drop amount.count else .empty start

def showFile (call : Call) (amount : Amount) (titled : Bool) (reply : Reply) (name : String) :
    Reply :=
  let label := if name == "-" then "standard input" else name
  let gap := if reply.steps.isEmpty then "" else "\n"
  let titles := if titled then [call.text s!"{gap}==> {label} <==\n"] else []
  let failure (name : String) : String := s!"cannot open '{name}' for reading"
  call.addFile name failure (amount.keep call.time) (amount.leave call.time)
    { reply with steps := reply.steps ++ titles }

def tool : Tool := fun call =>
  let args :=
    match call.args, (call.args.headD "").toList with
    | _ :: rest, '-' :: c :: digits =>
        if c.isDigit then "-n" :: String.ofList (c :: digits) :: rest else call.args
    | args, _ => args
  call.withOptions [('c', true), ('n', true)] args fun options operands =>
    match options.mapM Amount.ofOption with
    | .error fault => call.fail fault
    | .ok amounts =>
        let names := if operands.isEmpty then ["-"] else operands
        let amount := amounts.getLast?.getD ⟨false, false, 10⟩
        names.foldl (showFile call amount (1 < names.length)) (call.done 0)

end OptionSchema.Shell.Tool.Head
