import Repath.Pattern.Reader
import Repath.Pattern.Resolve
import Repath.Pattern.Search

namespace Repath

structure Regex where
  pattern : Pattern
  names : List (String × Nat)
  program : Program := pattern.program
  program_eq : program = pattern.program := by rfl

namespace Regex

def sizeLimit : Nat := 10 * 1024 * 1024

/-- Reads and resolves a pattern. One that is well-formed is refused if it takes too many bytes when
it is compiled, which `fits` tells from its text. -/
def compile (fits : String → Bool) (text : String) : Except PatternError Regex := do
  let (body, names) ← Syntax.read text.toList
  let (pattern, _) ← body.resolve .initial
  if !fits text then throw .tooLarge
  return { pattern, names }

def matchesIn (r : Regex) (text : List Char) : List Match := r.program.allMatches text

end Regex

/-- Writes a text so that, read as a pattern, it means itself. -/
def escapeText (s : String) : String :=
  String.ofList (s.toList.flatMap fun c => if Reader.isMeta c then ['\\', c] else [c])

end Repath
