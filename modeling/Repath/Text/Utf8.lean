
namespace Repath

abbrev Bytes := List UInt8

namespace Utf8

def encode (cs : List Char) : Bytes := cs.flatMap String.utf8EncodeChar

/-- A character of which some bytes are still to come: how many, the value so far, and the bounds
of the next byte. -/
structure Partial where
  missing : Nat
  value : Nat
  lo : UInt8
  hi : UInt8
  deriving DecidableEq, Repr

/-- The first byte of a character. What comes out is a character, or `none` for an ill-formed
part. -/
def start (b : UInt8) : List (Option Char) × Option Partial :=
  let n := b.toNat
  if b < 0x80 then ([some (Char.ofNat n)], none)
  else if b < 0xC2 then ([none], none)
  else if b < 0xE0 then ([], some ⟨1, n - 0xC0, 0x80, 0xBF⟩)
  else if b = 0xE0 then ([], some ⟨2, 0, 0xA0, 0xBF⟩)
  else if b = 0xED then ([], some ⟨2, 0xD, 0x80, 0x9F⟩)
  else if b < 0xF0 then ([], some ⟨2, n - 0xE0, 0x80, 0xBF⟩)
  else if b = 0xF0 then ([], some ⟨3, 0, 0x90, 0xBF⟩)
  else if b < 0xF4 then ([], some ⟨3, n - 0xF0, 0x80, 0xBF⟩)
  else if b = 0xF4 then ([], some ⟨3, 4, 0x80, 0x8F⟩)
  else ([none], none)

def step : Option Partial → UInt8 → List (Option Char) × Option Partial
  | none, b => start b
  | some p, b =>
    if p.lo ≤ b ∧ b ≤ p.hi then
      let value := 64 * p.value + (b.toNat - 0x80)
      if p.missing = 1 then ([some (Char.ofNat value)], none)
      else ([], some ⟨p.missing - 1, value, 0x80, 0xBF⟩)
    else
      let (out, p) := start b
      (none :: out, p)

/-- The characters of a row of bytes, with `none` for each ill-formed part. -/
def scan : Option Partial → Bytes → List (Option Char)
  | none, [] => []
  | some _, [] => [none]
  | p, b :: bs =>
    let (out, p) := step p b
    out ++ scan p bs

def decode? (bs : Bytes) : Option (List Char) := (scan none bs).mapM id

def lossy (bs : Bytes) : List Char := (scan none bs).map (·.getD '\uFFFD')

end Utf8

end Repath
