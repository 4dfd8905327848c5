/-!
# Hexadecimal digits

Numbers as digits of base 16.  `Hex.number?_text` says that the digits of a
number read back, up to as many numbers as their count can tell apart.
-/

namespace DataflowTyping

namespace Hex

/-- The hexadecimal digit of a value below 16, in lower case. -/
def digit (value : Nat) : Char :=
  if value < 10 then Char.ofNat (48 + value) else Char.ofNat (87 + value)

/-- The value of a hexadecimal digit, in lower or upper case. -/
def value? (letter : Char) : Option Nat :=
  if '0' ≤ letter ∧ letter ≤ '9' then some (letter.toNat - 48)
  else if 'a' ≤ letter ∧ letter ≤ 'f' then some (letter.toNat - 87)
  else if 'A' ≤ letter ∧ letter ≤ 'F' then some (letter.toNat - 55)
  else none

theorem value?_digit {value : Nat} (small : value < 16) :
    value? (digit value) = some value := by
  have every : ∀ index : Fin 16, value? (digit index.val) = some index.val := by
    decide
  exact every ⟨value, small⟩

/-- The last `width` hexadecimal digits of a number. -/
def text : Nat → Nat → List Char
  | 0, _ => []
  | width + 1, number => text width (number / 16) ++ [digit (number % 16)]

@[simp]
theorem length_text (width number : Nat) : (text width number).length = width := by
  induction width generalizing number with
  | zero => rfl
  | succ width ih => simp [text, ih]

/-- Append one digit to the number read so far. -/
def push (number : Nat) (letter : Char) : Option Nat :=
  (value? letter).map (16 * number + ·)

def number? (digits : List Char) : Option Nat :=
  digits.foldlM push 0

/-- How many numbers can be told apart by `width` hexadecimal digits. -/
def capacity : Nat → Nat
  | 0 => 1
  | width + 1 => 16 * capacity width

theorem number?_text (width number : Nat) :
    number? (text width number) = some (number % capacity width) := by
  induction width generalizing number with
  | zero => simp [text, number?, capacity, Nat.mod_one]
  | succ width ih =>
      have digitValue := value?_digit (Nat.mod_lt number (show 0 < 16 by decide))
      have split : number % capacity (width + 1) =
          16 * (number / 16 % capacity width) + number % 16 := by
        rw [capacity, Nat.mod_mul]
        omega
      simp only [number?] at ih
      simp [text, number?, List.foldlM_append, ih, push, digitValue, split]

end Hex

end DataflowTyping
