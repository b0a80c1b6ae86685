import OptionSchema.Text.Digit

/-!
# TOML values

A number can have the form of one and yet no value: a document may hold it as long as nobody reads
it.
-/

namespace OptionSchema.Toml

/-! ## Dates and times

Dates are checked against the calendar. A time may come without seconds; of the fraction of a second
nine digits count. -/

open Text (decimalDigits digitsValue)

structure Date where
  year : Nat
  month : Nat
  day : Nat

structure Time where
  hour : Nat
  minute : Nat
  second : Nat
  nanosecond : Nat

inductive Offset where
  | universal
  | shifted (minutes : Int)

/-- A date, a time of day, or both, with the distance from universal time if it is known. -/
structure Datetime where
  date? : Option Date
  time? : Option Time
  offset? : Option Offset

def fixedDigits? (count : Nat) (text : List Char) : Option (Nat × List Char) :=
  let digits := text.take count
  if digits.length == count && digits.all Char.isDigit then
    some (digitsValue 10 digits, text.drop count)
  else none

def expect? (c : Char) : List Char → Option (List Char)
  | d :: rest => if c == d then some rest else none
  | [] => none

def daysIn (year month : Nat) : Nat :=
  if month == 2 then
    if (year % 4 == 0 && year % 100 != 0) || year % 400 == 0 then 29 else 28
  else if month == 4 || month == 6 || month == 9 || month == 11 then 30
  else 31

def date? (text : List Char) : Option (Date × List Char) := do
  let (year, rest) ← fixedDigits? 4 text
  let rest ← expect? '-' rest
  let (month, rest) ← fixedDigits? 2 rest
  let rest ← expect? '-' rest
  let (day, rest) ← fixedDigits? 2 rest
  if 1 ≤ month && month ≤ 12 && 1 ≤ day && day ≤ daysIn year month then
    some (⟨year, month, day⟩, rest)
  else none

def nanoseconds (digits : List Char) : Nat :=
  digitsValue 10 ((digits ++ List.replicate 9 '0').take 9)

def second? (text : List Char) : Option ((Nat × Nat) × List Char) :=
  match text with
  | ':' :: rest => do
      let (second, rest) ← fixedDigits? 2 rest
      match rest with
      | '.' :: rest =>
          let (digits, rest) := rest.span Char.isDigit
          if digits.isEmpty then none else some ((second, nanoseconds digits), rest)
      | rest => some ((second, 0), rest)
  | rest => some ((0, 0), rest)

def time? (text : List Char) : Option (Time × List Char) := do
  let (hour, rest) ← fixedDigits? 2 text
  let rest ← expect? ':' rest
  let (minute, rest) ← fixedDigits? 2 rest
  let ((second, nanosecond), rest) ← second? rest
  if hour ≤ 23 && minute ≤ 59 && second ≤ 60 then
    some (⟨hour, minute, second, nanosecond⟩, rest)
  else none

/-- The distance from universal time that a text denotes; the empty text leaves it open. -/
def offset? (text : List Char) : Option (Option Offset) :=
  match text with
  | [] => some none
  | ['Z'] | ['z'] => some (some .universal)
  | sign :: rest => do
      let (hour, rest) ← fixedDigits? 2 rest
      let rest ← expect? ':' rest
      let (minute, rest) ← fixedDigits? 2 rest
      if rest.isEmpty && hour ≤ 23 && minute ≤ 59 then
        let minutes : Int := hour * 60 + minute
        if sign == '+' then some (some (.shifted minutes))
        else if sign == '-' then some (some (.shifted (-minutes)))
        else none
      else none

def datetime? (text : List Char) : Option Datetime :=
  match date? text with
  | none => do
      let (time, rest) ← time? text
      if rest.isEmpty then some ⟨none, some time, none⟩ else none
  | some (date, []) => some ⟨some date, none, none⟩
  | some (date, mark :: rest) => do
      if mark == 'T' || mark == 't' || mark == ' ' then
        let (time, rest) ← time? rest
        let offset ← offset? rest
        some ⟨some date, some time, offset⟩
      else none

def zeroPadded (width n : Nat) : List Char :=
  let digits := decimalDigits n
  List.replicate (width - digits.length) '0' ++ digits

def Date.text (date : Date) : List Char :=
  zeroPadded 4 date.year ++ '-' :: zeroPadded 2 date.month ++ '-' :: zeroPadded 2 date.day

/-- The text of a time, with a fraction only if it is not zero. -/
def Time.text (time : Time) : List Char :=
  let fraction := ((zeroPadded 9 time.nanosecond).reverse.dropWhile (· == '0')).reverse
  zeroPadded 2 time.hour ++ ':' :: zeroPadded 2 time.minute ++ ':' :: zeroPadded 2 time.second ++
    (if fraction.isEmpty then [] else '.' :: fraction)

def Offset.text : Offset → List Char
  | .universal => ['Z']
  | .shifted distance =>
      let size := distance.natAbs
      (if distance < 0 then '-' else '+') ::
        (zeroPadded 2 (size / 60) ++ ':' :: zeroPadded 2 (size % 60))

def Datetime.text (datetime : Datetime) : String :=
  let date := (datetime.date?.map Date.text).getD []
  let time := (datetime.time?.map Time.text).getD []
  let offset := (datetime.offset?.map Offset.text).getD []
  let mark := if date.isEmpty || time.isEmpty then [] else ['T']
  String.ofList (date ++ mark ++ time ++ offset)

/-! ## Values -/

/-- A TOML value, or a number that cannot be represented. The entries of a table are in strictly
ascending order of their keys. -/
inductive Value where
  | string (text : String)
  | integer (value : Int)
  | float (value : Float)
  | boolean (value : Bool)
  | datetime (value : Datetime)
  | array (items : List Value)
  | table (entries : List (String × Value))
  | unrepresentable

mutual

def Value.isReadable : Value → Bool
  | .array items => itemsReadable items
  | .table entries => entriesReadable entries
  | .unrepresentable => false
  | _ => true

def itemsReadable : List Value → Bool
  | [] => true
  | item :: rest => item.isReadable && itemsReadable rest

def entriesReadable : List (String × Value) → Bool
  | [] => true
  | (_, value) :: rest => value.isReadable && entriesReadable rest

end

end OptionSchema.Toml
