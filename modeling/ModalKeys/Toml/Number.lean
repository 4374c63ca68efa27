import ModalKeys.Toml.Text
import ModalKeys.Toml.Value

/-!
# Numbers and dates of a settings document

Integers are 64 bits wide. Floats and dates are checked and kept as they are written.
-/

namespace ModalKeys.Toml

def isSign (c : Char) : Bool := c == '+' || c == '-'

def sign (cs : List Char) : List Char × List Char :=
  match charOf isSign cs with
  | some (c, rest) => ([c], rest)
  | none => ([], cs)

/-- Takes a digit, perhaps after an underscore. -/
def laterDigit (p : Char → Bool) : Scanner Char
  | '_' :: rest => charOf p rest
  | cs => charOf p cs

/-- Takes digits with single underscores between them, and drops the underscores. -/
def digits? (p : Char → Bool) : Scanner (List Char) := fun cs =>
  (charOf p cs).map fun (first, rest) =>
    let (later, rest) := many (laterDigit p) rest
    (first :: later, rest)

/-- Takes decimal digits that do not begin with a zero, or a zero alone. -/
def wholePart? : Scanner (List Char)
  | '0' :: rest => some (['0'], rest)
  | cs => digits? Char.isDigit cs

def numeral (base : Nat) (digits : List Char) : Nat :=
  digits.foldl (fun total c => total * base + (hexValue? c).getD 0) 0

def fitsInt64 (value : Int) : Bool := decide (Int64.minValue.toInt ≤ value) && decide (value ≤ Int64.maxValue.toInt)

def isBinaryDigit (c : Char) : Bool := c == '0' || c == '1'

def isOctalDigit (c : Char) : Bool := '0' ≤ c && c ≤ '7'

def isHexDigit (c : Char) : Bool := (hexValue? c).isSome

def based? (base : Nat) (p : Char → Bool) : Scanner Value := fun cs =>
  match digits? p cs with
  | none => none
  | some (digits, rest) =>
      let value : Int := numeral base digits
      if fitsInt64 value then some (.integer value, rest) else none

def decimal? : Scanner Value := fun cs =>
  let (signs, rest) := sign cs
  match wholePart? rest with
  | none => none
  | some (digits, rest) =>
      let size : Int := numeral 10 digits
      let value := if signs = ['-'] then -size else size
      if fitsInt64 value then some (.integer value, rest) else none

def integer? : Scanner Value
  | '0' :: 'x' :: rest => based? 16 isHexDigit rest
  | '0' :: 'o' :: rest => based? 8 isOctalDigit rest
  | '0' :: 'b' :: rest => based? 2 isBinaryDigit rest
  | cs => decimal? cs

def exponent? : Scanner (List Char × List Char)
  | c :: rest =>
      if c = 'e' ∨ c = 'E' then
        let (signs, rest) := sign rest
        (digits? Char.isDigit rest).map fun (digits, rest) => ((signs, digits), rest)
      else none
  | [] => none

/-- The decimal `digits · 10 ^ scale` rounds to more than every double. -/
def overflows (digits : List Char) (scale : Int) : Bool :=
  let size := numeral 10 digits
  let magnitude := scale + (digits.dropWhile (· = '0')).length
  let limit := Nat.pow 2 1024 - Nat.pow 2 970
  if size = 0 then false
  else if magnitude < 300 then false
  else if 400 < magnitude then true
  else if 0 ≤ scale then decide (limit ≤ size * Nat.pow 10 scale.toNat)
  else decide (limit * Nat.pow 10 (-scale).toNat ≤ size)

def inf : List Char := ['i', 'n', 'f']

def nan : List Char := ['n', 'a', 'n']

/-- Takes a float, which has a fraction, an exponent or both. A positive one must have a finite
value. -/
def float? : Scanner Value := fun cs =>
  let (signs, unsigned) := sign cs
  let finish (rest fraction power : List Char) (scale : Int) (whole : List Char) :=
    if signs ≠ ['-'] ∧ overflows (whole ++ fraction) (scale - fraction.length) then none
    else some (Value.float (signs ++ whole ++ '.' :: fraction ++ 'e' :: power), rest)
  let scaleOf (signs digits : List Char) : Int :=
    if signs = ['-'] then -(numeral 10 digits : Int) else numeral 10 digits
  match wholePart? unsigned with
  | some (whole, rest) =>
      match exponent? rest with
      | some ((powerSign, power), rest) =>
          finish rest [] (powerSign ++ power) (scaleOf powerSign power) whole
      | none =>
          match (expect '.' rest).bind (digits? Char.isDigit) with
          | none => none
          | some (fraction, rest) =>
              match exponent? rest with
              | some ((powerSign, power), rest) =>
                  finish rest fraction (powerSign ++ power) (scaleOf powerSign power) whole
              | none => finish rest fraction ['0'] 0 whole
  | none =>
      match word inf unsigned, word nan unsigned with
      | some rest, _ => some (.float (signs ++ inf), rest)
      | none, some rest => some (.float (signs ++ nan), rest)
      | none, none => none

/-- Takes exactly `count` decimal digits, as a number and as they stand. -/
def field? (count : Nat) : Scanner Nat := fun cs =>
  let digits := cs.take count
  if digits.length = count ∧ digits.all Char.isDigit then
    some (numeral 10 digits, cs.drop count)
  else none

def between? (count low high : Nat) : Scanner Nat := fun cs =>
  match field? count cs with
  | some (n, rest) => if low ≤ n ∧ n ≤ high then some (n, rest) else none
  | none => none

def isLeapYear (year : Nat) : Bool := year % 4 == 0 && (year % 100 != 0 || year % 400 == 0)

def daysInMonth (year month : Nat) : Nat :=
  if month = 2 then if isLeapYear year then 29 else 28
  else if month ∈ [4, 6, 9, 11] then 30
  else 31

def skipDate? (cs : List Char) : Option (List Char) := do
  let (year, rest) ← field? 4 cs
  let rest ← expect '-' rest
  let (month, rest) ← between? 2 1 12 rest
  let rest ← expect '-' rest
  let (_, rest) ← between? 2 1 (daysInMonth year month) rest
  some rest

def skipTime? (cs : List Char) : Option (List Char) := do
  let (_, rest) ← between? 2 0 23 cs
  let rest ← expect ':' rest
  let (_, rest) ← between? 2 0 59 rest
  let rest ← expect ':' rest
  let (_, rest) ← between? 2 0 60 rest
  match (expect '.' rest).bind (some1 (charOf Char.isDigit)) with
  | some (_, rest) => some rest
  | none => some rest

def skipOffset? (cs : List Char) : Option (List Char) :=
  match cs with
  | 'Z' :: rest | 'z' :: rest => some rest
  | c :: rest =>
      if isSign c then do
        let (_, rest) ← between? 2 0 23 rest
        let rest ← expect ':' rest
        let (_, rest) ← between? 2 0 59 rest
        some rest
      else none
  | [] => none

def isTimeMark (c : Char) : Bool := c == 'T' || c == 't' || c == ' '

/-- What is left after a date, a time, or a date with a time and perhaps an offset. -/
def skipDateTime? (cs : List Char) : Option (List Char) :=
  match skipDate? cs with
  | none => skipTime? cs
  | some rest =>
      match (charOf isTimeMark rest).bind fun (_, rest) => skipTime? rest with
      | none => some rest
      | some rest => some ((skipOffset? rest).getD rest)

def date? : Scanner Value := fun cs =>
  (skipDateTime? cs).map fun rest => (.date (cs.take (cs.length - rest.length)), rest)

/-- Takes a number or a date. -/
def number? : Scanner Value := fun cs =>
  match date? cs with
  | some result => some result
  | none =>
      match float? cs with
      | some result => some result
      | none => integer? cs

end ModalKeys.Toml
