/-!
# Digits

Digits in bases up to sixteen, rows of them, and the shape of a number that is written with a point
or a power of ten.
-/

set_option autoImplicit false

namespace BlogOperator.Number

/-- The value of a digit in bases up to sixteen. -/
def digit? (base : Nat) (character : Char) : Option Nat :=
  let value? :=
    if character.isDigit then some (character.toNat - '0'.toNat)
    else if 'a' ≤ character && character ≤ 'f' then some (character.toNat - 'a'.toNat + 10)
    else if 'A' ≤ character && character ≤ 'F' then some (character.toNat - 'A'.toNat + 10)
    else none
  value?.filter (· < base)

/-- The value of a row of digits, at least one of them. -/
def natural? (base : Nat) : List Char → Option Nat
  | [] => none
  | digits => digits.foldlM (fun value digit ↦ (value * base + ·) <$> digit? base digit) 0

/-- A sign, and what follows it. -/
def signed : List Char → Bool × List Char
  | '-' :: rest => (true, rest)
  | '+' :: rest => (false, rest)
  | characters => (false, characters)

/-- Whether characters are a power of ten after its letter, or nothing. -/
def isPower : List Char → Bool
  | [] => true
  | letter :: rest =>
    let digits := (signed rest).2
    (letter = 'e' || letter = 'E') && !digits.isEmpty && digits.all Char.isDigit

/-- The names of what is no finite number, in small letters. -/
def boundlessNames : List String := ["inf", "infinity", "nan"]

/-- Whether characters are a real number: an optional sign, then digits with or without a point,
or a name in whatever case. -/
def isReal (characters : List Char) : Bool :=
  let body := (signed characters).2
  let whole := body.takeWhile Char.isDigit
  let behind := body.dropWhile Char.isDigit
  let (fraction, behind) :=
    match behind with
    | '.' :: rest => (rest.takeWhile Char.isDigit, rest.dropWhile Char.isDigit)
    | rest => ([], rest)
  (!(whole ++ fraction).isEmpty && isPower behind) ||
    boundlessNames.contains (String.ofList (body.map Char.toLower))

end BlogOperator.Number
