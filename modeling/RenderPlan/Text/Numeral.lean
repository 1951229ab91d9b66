/-! Decimal numerals: the digits of a number and the readers of digit runs. A word reader
takes an optional plus sign and any number of leading zeros, and refuses a value that does not
fit. -/
namespace RenderPlan.Text

/-- The decimal digits of `n`, without leading zeros. -/
def decimal (n : Nat) : String := String.ofList (Nat.toDigits 10 n)

/-- The decimal digits of an integer, behind a minus sign if it is negative. -/
def signedDecimal (n : Int) : String :=
  if n < 0 then "-" ++ decimal n.natAbs else decimal n.natAbs

/-- The value of a nonempty run of decimal digits. -/
def readDigits (cs : List Char) : Option Nat :=
  if cs ≠ [] ∧ cs.all Char.isDigit then some (Nat.ofDigitChars 10 cs 0) else none

@[simp] theorem readDigits_decimal (n : Nat) : readDigits (decimal n).toList = some n := by
  have hd : (Nat.toDigits 10 n).all Char.isDigit = true := by
    rw [List.all_eq_true]
    exact fun c hc => Nat.isDigit_of_mem_toDigits (by decide) (by decide) hc
  have hn : Nat.toDigits 10 n ≠ [] := Nat.toDigits_ne_nil
  simp [readDigits, decimal, hd, hn, Nat.ofDigitChars_toDigits]

def hexValue (c : Char) : Option Nat :=
  if c.isDigit then some (c.toNat - '0'.toNat)
  else if 'a' ≤ c ∧ c ≤ 'f' then some (c.toNat - 'a'.toNat + 10)
  else if 'A' ≤ c ∧ c ≤ 'F' then some (c.toNat - 'A'.toNat + 10)
  else none

/-- Appends a digit to a number in a base of at most sixteen. -/
def appendDigit (base n : Nat) (c : Char) : Option Nat :=
  (hexValue c).bind fun d => if d < base then some (n * base + d) else none

/-- The value of a nonempty run of digits in a base of at most sixteen. -/
def readInBase (base : Nat) (cs : List Char) : Option Nat :=
  if cs = [] then none
  else cs.foldlM (appendDigit base) 0

/-- An optional plus sign and decimal digits, of a value below `bound`. -/
def readBelow (bound : Nat) (cs : List Char) : Option Nat :=
  let digits := match cs with
    | '+' :: rest => rest
    | _ => cs
  match readDigits digits with
  | some n => if n < bound then some n else none
  | none => none

def readWord64 (cs : List Char) : Option UInt64 :=
  (readBelow UInt64.size cs).map UInt64.ofNat

def readWord32 (cs : List Char) : Option UInt32 :=
  (readBelow UInt32.size cs).map UInt32.ofNat

end RenderPlan.Text
