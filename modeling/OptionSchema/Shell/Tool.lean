import OptionSchema.Shell.Format
import OptionSchema.Shell.Tool.Head
import OptionSchema.Shell.Tool.Tr

/-!
# Tools

The tools that scripts are made of, by their names.
-/

namespace OptionSchema.Shell

def Tool.cat : Tool := fun call =>
  call.withOptions [] call.args fun _ operands =>
    let names := if operands.isEmpty then ["-"] else operands
    let join (reply : Reply) (name : String) : Reply :=
      call.addFile name id id (fun _ => .empty call.time) reply
    names.foldl join (call.done 0)

def Tool.echo : Tool := fun call =>
  let isBare := call.args.head? == some "-n"
  let text := " ".intercalate (if isBare then call.args.tail else call.args)
  ⟨[call.text (if isBare then text else text ++ "\n")], 0, none⟩

def Complaint.toolMessage : Complaint → String
  | .notNumeric arg => s!"'{arg}': expected a numeric value"
  | .partlyNumeric arg => s!"'{arg}': value not completely converted"
  | .outOfRange arg => s!"'{arg}': Numerical result out of range"
  | .badDirective text => s!"{text}: invalid conversion specification"
  | .noConversion => "%: invalid conversion specification"

def Tool.printf : Tool := fun call =>
  call.withOptions [] call.args fun _ operands =>
    match operands with
    | [] => call.misuse "missing operand"
    | format :: args =>
        let printed := print format args
        let complaints := printed.complaints.map fun fault => call.complaint fault.toolMessage
        let status := if complaints.isEmpty then 0 else 1
        ⟨complaints ++ [call.text (String.ofList printed.text)], status, none⟩

def unit? : List Char → Option Nat
  | [] => some 1000
  | ['s'] => some 1000
  | ['m'] => some 60_000
  | ['h'] => some 3_600_000
  | ['d'] => some 86_400_000
  | _ => none

/-- The milliseconds that a text denotes, unless they are too many to be waited for. -/
def duration? (text : String) : Option Nat := do
  let ⟨number, rest⟩ := readReal text.toList
  let unit ← unit? rest
  let size := Nat.pow 10 (min 100 number.exponent.natAbs)
  if rest.length == text.length || number.negative then failure
  else if number.exponent < 0 then return Decimal.roundedQuotient (number.digits * unit) size
  else return number.digits * unit * size

def Tool.sleep : Tool := fun call =>
  call.withOptions [] call.args fun _ operands =>
    if operands.isEmpty then call.misuse "missing operand"
    else
      match operands.find? fun text => (duration? text).isNone with
      | some text => call.misuse s!"invalid time interval '{text}'"
      | none =>
          let total := (operands.filterMap duration?).foldl (· + ·) 0
          ⟨[.write (.empty (call.time + total))], 0, none⟩

def tool? (name : String) : Option Tool :=
  match name with
  | "cat" => some Tool.cat
  | "echo" => some Tool.echo
  | "false" => some (·.done 1)
  | "head" => some Tool.Head.tool
  | "printf" => some Tool.printf
  | "sleep" => some Tool.sleep
  | "tr" => some Tool.Tr.tool
  | "true" => some (·.done 0)
  | _ => none

end OptionSchema.Shell
