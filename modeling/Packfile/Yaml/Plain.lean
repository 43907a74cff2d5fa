import Packfile.Yaml.Number

/-!
# Plain scalars

A plain scalar may stand for nothing, a truth value or a number; otherwise it stands for its text.
Integers may be written in decimal, hexadecimal, octal or binary. Digits after a leading zero are
text, not a number.
-/

namespace Packfile.Yaml

/-- What a plain scalar stands for. -/
inductive Plain where
  | null
  | bool (value : Bool)
  | number (value : Number)
  /-- An integer that needs more than sixty-four bits but no more than twice as many. -/
  | wideInteger
  | text
  deriving DecidableEq, Repr

namespace Plain

/-- Whether the text is a word for nothing. -/
def isNull (text : String) : Bool :=
  ["null", "Null", "NULL", "~"].contains text

/-- The truth value that a word stands for. -/
def bool? (text : String) : Option Bool :=
  if ["true", "True", "TRUE"].contains text then some true
  else if ["false", "False", "FALSE"].contains text then some false
  else none

/-- The text without a sign in front. -/
def dropSign (sign : Char) : List Char → List Char
  | [] => []
  | c :: rest => if c = sign then rest else c :: rest

/-- Whether the text has more than one digit and nothing else but a sign, and starts with a zero. -/
def isZeroPadded (text : List Char) : Bool :=
  let unsigned := match text with
    | '-' :: rest | '+' :: rest => rest
    | _ => text
  1 < unsigned.length && unsigned.head? = some '0' && unsigned.all Char.isDigit

/-! ## Integers -/

/-- The value of a digit, in any base up to sixteen. -/
def digit? (base : Nat) (c : Char) : Option Nat :=
  let digit :=
    if c.isDigit then some (c.toNat - '0'.toNat)
    else if 'a' ≤ c && c ≤ 'f' then some (c.toNat - 'a'.toNat + 10)
    else if 'A' ≤ c && c ≤ 'F' then some (c.toNat - 'A'.toNat + 10)
    else none
  digit.filter (· < base)

/-- The number that digits stand for; there has to be one. -/
def natural? (base : Nat) (text : List Char) : Option Nat :=
  if text.isEmpty then none
  else text.foldlM (fun n c => (digit? base c).map (n * base + ·)) 0

/-- The number that digits stand for, with a mark for the base in front if it is not ten. -/
def magnitude? (text : List Char) : Option Nat :=
  match text with
  | '0' :: 'x' :: rest => natural? 16 rest
  | '0' :: 'o' :: rest => natural? 8 rest
  | '0' :: 'b' :: rest => natural? 2 rest
  | _ => if isZeroPadded text then none else natural? 10 text

/-- The integer that a text stands for, of any size. -/
def integer? (text : List Char) : Option Int :=
  match text with
  | '-' :: rest => (magnitude? rest).map fun n => -(n : Int)
  | '+' :: rest => (magnitude? rest).map Int.ofNat
  | _ => (magnitude? text).map Int.ofNat

/-- What an integer is read as: a number if it fits in sixty-four bits, with or without sign, and
nothing at all if it does not fit in twice as many. -/
def ofInteger? (value : Int) : Option Plain :=
  if -Int.pow 2 63 ≤ value && value < Int.pow 2 64 then some (.number (.integer value))
  else if -Int.pow 2 127 ≤ value && value < Int.pow 2 128 then some .wideInteger
  else none

/-! ## Numbers of double precision -/

/-- The exponent at the end of a number: zero if there is none. -/
def exponent? : List Char → Option Int
  | [] => some 0
  | 'e' :: rest | 'E' :: rest =>
    match rest with
    | '-' :: digits => (natural? 10 digits).map fun n => -(n : Int)
    | '+' :: digits => (natural? 10 digits).map Int.ofNat
    | digits => (natural? 10 digits).map Int.ofNat
  | _ => none

/-- A number without a sign: digits with an optional point and an optional exponent. -/
def unsignedFloat? (negative : Bool) (text : List Char) : Option Binary64 :=
  let whole := text.takeWhile Char.isDigit
  let rest := text.dropWhile Char.isDigit
  let (fraction, rest) :=
    match rest with
    | '.' :: rest => (rest.takeWhile Char.isDigit, rest.dropWhile Char.isDigit)
    | _ => ([], rest)
  match natural? 10 (whole ++ fraction), exponent? rest with
  | some digits, some exponent =>
    some (.ofDecimal negative digits (exponent - fraction.length))
  | _, _ => none

/-- A number in decimal notation that is not too large. -/
def decimalFloat? (text : List Char) : Option Binary64 :=
  let value := match text with
    | '-' :: rest => unsignedFloat? true rest
    | rest => unsignedFloat? false rest
  value.filter fun number => match number with
    | .finite .. => true
    | _ => false

/-- The number of double precision that a text stands for. -/
def float? (text : List Char) : Option Binary64 :=
  let unsigned := dropSign '+' text
  if [".inf", ".Inf", ".INF"].contains (String.ofList unsigned) then some (.infinite false)
  else if ["-.inf", "-.Inf", "-.INF"].contains (String.ofList text) then some (.infinite true)
  else if [".nan", ".NaN", ".NAN"].contains (String.ofList text) then some .notANumber
  else
    match text, unsigned with
    | '+' :: _, '-' :: _ => none
    | _, _ => decimalFloat? unsigned

/-! ## Scalars -/

/-- The number that a text stands for. -/
def number? (text : List Char) : Option Plain :=
  match (integer? text).bind ofInteger? with
  | some plain => some plain
  | none => if isZeroPadded text then none else (float? text).map fun x => .number (.float x)

/-- What a plain scalar stands for. -/
def ofText (text : String) : Plain :=
  if text = "" || isNull text then .null
  else
    match bool? text with
    | some value => .bool value
    | none => (number? text.toList).getD .text

end Plain

end Packfile.Yaml
