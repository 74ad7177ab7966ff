/-!
# Hexadecimal words

A 64-bit word is written with the mark `0x` and exactly sixteen lower-case
digits, and read with the mark and one to sixteen digits of either case.
-/

namespace Scanout.Text.Hex

/-- The digits of `n` in base sixteen, most significant first, `count` of them. -/
def digits : (count : Nat) → (n : Nat) → List Char
  | 0, _ => []
  | count + 1, n => digits count (n / 16) ++ [Nat.digitChar (n % 16)]

/-- The written form of a word. -/
def render (w : UInt64) : String :=
  "0x" ++ String.ofList (digits 16 w.toNat)

/-- The value of one digit. -/
def digitValue? (c : Char) : Option Nat :=
  if '0' ≤ c ∧ c ≤ '9' then some (c.toNat - '0'.toNat)
  else if 'a' ≤ c ∧ c ≤ 'f' then some (c.toNat - 'a'.toNat + 10)
  else if 'A' ≤ c ∧ c ≤ 'F' then some (c.toNat - 'A'.toNat + 10)
  else none

/-- Reads a word; `none` if the text is no written form of one. -/
def parse? (text : String) : Option UInt64 :=
  match text.toList with
  | '0' :: 'x' :: ds =>
    if 1 ≤ ds.length ∧ ds.length ≤ 16 then
      (ds.foldlM (fun n c => (digitValue? c).map (16 * n + ·)) 0).map Nat.toUInt64
    else none
  | _ => none

end Scanout.Text.Hex
