import Mathlib.Data.Nat.Digits.Defs
import Numen.Foundation.Arithmetic

/-!
# Hexadecimal numerals

Reading and writing 64-bit integers in base sixteen, as the standard library
does it, against the value of a numeral over unbounded integers.
-/

namespace Numen
namespace Foundation

/-- `char::to_digit(16)`. -/
def toDigit (c : Char) : Option Nat :=
  if '0' ≤ c ∧ c ≤ '9' then some (c.toNat - 48)
  else if 'a' ≤ c ∧ c ≤ 'f' then some (c.toNat - 87)
  else if 'A' ≤ c ∧ c ≤ 'F' then some (c.toNat - 55)
  else none

/-- A 64-bit integer, or nothing where the operation overflows. -/
def checkedU64 (n : Nat) : Option Nat :=
  if n ≤ u64Max then some n else none

/-- The loop of `u64::from_str_radix(_, 16)` over the digits. -/
def readDigits : Nat -> List Char -> Option Nat
  | result, [] => some result
  | result, c :: digits => do
      let digit <- toDigit c
      let shifted <- checkedU64 (result * 16)
      let next <- checkedU64 (shifted + digit)
      readDigits next digits

/-- `u64::from_str_radix(_, 16).ok()`.  A single leading plus is accepted. -/
def fromStrRadix16 : List Char -> Option Nat
  | [] => none
  | ['+'] => none
  | '+' :: digits => readDigits 0 digits
  | digits => readDigits 0 digits

def numeralFrom : Nat -> List Char -> Option Nat
  | value, [] => some value
  | value, c :: digits => do
      let digit <- toDigit c
      numeralFrom (value * 16 + digit) digits

theorem numeralFrom_cons (value : Nat) (c : Char) (digits : List Char) :
    numeralFrom value (c :: digits) =
      (toDigit c).bind fun digit => numeralFrom (value * 16 + digit) digits :=
  rfl

theorem le_of_numeralFrom {digits : List Char} {value n : Nat}
    (h : numeralFrom value digits = some n) : value ≤ n := by
  induction digits generalizing value with
  | nil => exact Nat.le_of_eq (Option.some.inj h)
  | cons c digits ih =>
      rcases Option.bind_eq_some_iff.mp h with ⟨digit, _, hrest⟩
      have hle := ih hrest
      lia

theorem checkedU64_of_le {n : Nat} (h : n ≤ u64Max) : checkedU64 n = some n :=
  if_pos h

theorem readDigits_of_numeralFrom {digits : List Char} {value n : Nat}
    (h : numeralFrom value digits = some n) (hn : n ≤ u64Max) :
    readDigits value digits = some n := by
  induction digits generalizing value with
  | nil => exact h
  | cons c digits ih =>
      rcases Option.bind_eq_some_iff.mp h with ⟨digit, hdigit, hrest⟩
      have hle := le_of_numeralFrom hrest
      have hshifted : checkedU64 (value * 16) = some (value * 16) :=
        checkedU64_of_le (by lia)
      have hnext : checkedU64 (value * 16 + digit) =
          some (value * 16 + digit) := checkedU64_of_le (by lia)
      unfold readDigits
      rw [hdigit, Option.bind_eq_bind, Option.bind_some, hshifted,
        Option.bind_some, hnext, Option.bind_some]
      exact ih hrest

theorem fromStrRadix16_of_numeral {digits : List Char} {n : Nat}
    (hne : digits ≠ []) (h : numeralFrom 0 digits = some n)
    (hn : n ≤ u64Max) : fromStrRadix16 digits = some n := by
  have hread := readDigits_of_numeralFrom h hn
  unfold fromStrRadix16
  split
  · exact absurd rfl hne
  · cases h
  · cases h
  · exact hread

theorem numeralFrom_append (first second : List Char) (value : Nat) :
    numeralFrom value (first ++ second) =
      (numeralFrom value first).bind fun middle =>
        numeralFrom middle second := by
  induction first generalizing value with
  | nil => rfl
  | cons c first ih =>
      rw [List.cons_append, numeralFrom_cons, numeralFrom_cons,
        Option.bind_assoc]
      congr 1
      funext digit
      exact ih (value * 16 + digit)

theorem toDigit_digitChar {d : Nat} (h : d < 16) :
    toDigit d.digitChar = some d := by
  have hall : ∀ d < 16, toDigit d.digitChar = some d := by decide
  exact hall d h

theorem numeralFrom_toDigits (n : Nat) :
    numeralFrom 0 (Nat.toDigits 16 n) = some n := by
  have hsingle : forall {value d : Nat}, d < 16 ->
      numeralFrom value [d.digitChar] = some (value * 16 + d) := by
    intro value d hd
    rw [numeralFrom_cons, toDigit_digitChar hd]
    rfl
  induction n using Nat.strongRecOn with
  | ind n ih =>
      by_cases hlt : n < 16
      · rw [Nat.toDigits_of_lt_base hlt, hsingle hlt, Nat.zero_mul,
          Nat.zero_add]
      · have hle : 16 ≤ n := Nat.le_of_not_lt hlt
        rw [Nat.toDigits_of_base_le (by decide) hle, numeralFrom_append,
          ih (n / 16) (by lia), Option.bind_some,
          hsingle (Nat.mod_lt n (by decide))]
        congr 1
        lia

/-!
## Length
-/

theorem utf8Size_of_toDigit {c : Char} {d : Nat} (h : toDigit c = some d) :
    c.utf8Size = 1 := by
  have hle : c ≤ 'f' := by
    unfold toDigit at h
    split at h
    · rename_i hrange
      exact Char.le_trans hrange.right (by decide)
    · split at h
      · rename_i hrange
        exact hrange.right
      · split at h
        · rename_i hrange
          exact Char.le_trans hrange.right (by decide)
        · cases h
  rw [Char.utf8Size_eq_one_iff]
  exact UInt32.le_trans hle (by decide)

theorem utf8ByteSize_ofList_cons (c : Char) (cs : List Char) :
    (String.ofList (c :: cs)).utf8ByteSize =
      c.utf8Size + (String.ofList cs).utf8ByteSize := by
  rw [String.ofList_cons, String.utf8ByteSize_append,
    String.utf8ByteSize_singleton]

theorem utf8ByteSize_of_numeral {digits : List Char} {value n : Nat}
    (h : numeralFrom value digits = some n) :
    (String.ofList digits).utf8ByteSize = digits.length := by
  induction digits generalizing value with
  | nil => rfl
  | cons c digits ih =>
      rcases Option.bind_eq_some_iff.mp h with ⟨digit, hdigit, hrest⟩
      have hone := utf8Size_of_toDigit hdigit
      rw [utf8ByteSize_ofList_cons, hone, ih hrest, List.length_cons,
        Nat.add_comm]

end Foundation
end Numen
