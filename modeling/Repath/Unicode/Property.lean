import Repath.Unicode.CharSet
import Repath.Unicode.Category
import Repath.Unicode.Script
import Repath.Unicode.Binary

namespace Repath.Unicode

/-- A property asked for by its own name or as a value of a named property. -/
inductive PropertyQuery
  | named (name : String)
  | valued (name value : String)
  deriving DecidableEq, Repr

def lowerAscii (c : Char) : Char :=
  if 'A' ≤ c ∧ c ≤ 'Z' then Char.ofNat (c.toNat + 32) else c

def normalName (s : String) : String :=
  let cs := s.toList
  let (marked, body) := match cs with
    | a :: b :: rest =>
      if lowerAscii a = 'i' ∧ lowerAscii b = 's' then (true, rest) else (false, cs)
    | _ => (false, cs)
  let kept := (body.filter fun c => c ≠ ' ' ∧ c ≠ '_' ∧ c ≠ '-' ∧ c.toNat < 128).map lowerAscii
  if marked ∧ kept = ['c'] then "isc" else String.ofList kept

def lookUp (table : List (List String × List Nat)) (name : String) : Option CharSet :=
  (table.find? fun entry => entry.1.contains name).map fun entry => .spans entry.2

def binary? (name : String) : Option CharSet := lookUp binaryProperties name

def category? (name : String) : Option CharSet :=
  if name = "any" then some .all
  else if name = "assigned" then (lookUp categories "cn").map .compl
  else if name = "ascii" then some .ascii
  else match categoryGroups.find? fun entry => entry.1.contains name with
    | some (_, parts) => some (.ofList (parts.filterMap (lookUp categories)))
    | none => lookUp categories name

def script? (name : String) : Option CharSet := lookUp scripts name

/-- A script is listed under extensions only where the two readings differ. -/
def scriptExtension? (name : String) : Option CharSet :=
  (lookUp scriptExtensions name).or (script? name)

/-- The three names that are short for a category although they also abbreviate a property. -/
def categoryFirst : List String := ["cf", "sc", "lc"]

namespace PropertyQuery

def charSet? : PropertyQuery → Option CharSet
  | named name =>
    let n := normalName name
    let asBinary := if categoryFirst.contains n then none else binary? n
    asBinary.or ((category? n).or (script? n))
  | valued name value =>
    let v := normalName value
    match normalName name with
    | "gc" | "generalcategory" => category? v
    | "sc" | "script" => script? v
    | "scx" | "scriptextensions" => scriptExtension? v
    | _ => none

end PropertyQuery

end Repath.Unicode
