namespace ValueObjects.Number

def ofDigits (digits : List Char) : Nat :=
  digits.foldl (fun n c => 10 * n + (c.toNat - '0'.toNat)) 0

def digits (n : Nat) : List Char :=
  Nat.toDigits 10 n

/-- A text without the sign it may begin with, and whether that is a minus. -/
def signed : List Char → Bool × List Char
  | '-' :: rest => (true, rest)
  | '+' :: rest => (false, rest)
  | text => (false, text)

def leadingDigits (text : List Char) : List Char × List Char :=
  (text.takeWhile Char.isDigit, text.dropWhile Char.isDigit)

def padZeros (count : Nat) (digits : List Char) : List Char :=
  List.replicate (count - digits.length) '0' ++ digits

/-- The text of `n / 10 ^ places` with exactly `places` decimals; without a point if there are
none. -/
def pointed (n places : Nat) : List Char :=
  let unit := Nat.pow 10 places
  let whole := digits (n / unit)
  if places = 0 then whole else whole ++ '.' :: padZeros places (digits (n % unit))

def dropZeros (n : Nat) : Nat → Nat × Nat
  | 0 => (n, 0)
  | places + 1 => if n % 10 = 0 then dropZeros (n / 10) places else (n, places + 1)

/-- The whole number nearest to a quotient; of two, the even one. -/
def roundEven (n d : Nat) : Nat :=
  let below := n / d
  match compare (2 * (n % d)) d with
  | .lt => below
  | .gt => below + 1
  | .eq => if below % 2 = 0 then below else below + 1

end ValueObjects.Number
