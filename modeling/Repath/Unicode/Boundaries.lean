
namespace Repath.Unicode

/-- Membership in the set with the given boundaries: an odd number of them is passed. -/
def inside : List Nat → Nat → Bool
  | [], _ => false
  | b :: bs, n => decide (b ≤ n) && !inside bs n

def hexDigit? (c : Char) : Option Nat :=
  if '0' ≤ c ∧ c ≤ '9' then some (c.toNat - '0'.toNat)
  else if 'a' ≤ c ∧ c ≤ 'f' then some (c.toNat - 'a'.toNat + 10)
  else if 'A' ≤ c ∧ c ≤ 'F' then some (c.toNat - 'A'.toNat + 10)
  else none

def hexNumber (cs : List Char) : Nat :=
  cs.foldl (fun n c => 16 * n + (hexDigit? c).getD 0) 0

def gapsToBounds : List Char → (gap total : Nat) → List Nat
  | [], gap, total => [total + gap]
  | ' ' :: cs, gap, total => (total + gap) :: gapsToBounds cs 0 (total + gap)
  | c :: cs, gap, total => gapsToBounds cs (16 * gap + (hexDigit? c).getD 0) total

/-- Boundaries written as the hexadecimal distances from each to the next, in lines. -/
def ofGaps (lines : List String) : List Nat :=
  gapsToBounds (" ".intercalate lines).toList 0 0

end Repath.Unicode
