import Repath.Pattern.Syntax

namespace Repath

open Unicode (CharSet)

structure Flags where
  caseInsensitive : Bool
  multiLine : Bool
  dotAll : Bool
  swapGreed : Bool
  unicode : Bool
  crlf : Bool
  deriving DecidableEq, Repr

namespace Flags

def initial : Flags := ⟨false, false, false, false, true, false⟩

def set (fs : Flags) (change : FlagChange) : Flags :=
  match change.flag with
  | .caseInsensitive => { fs with caseInsensitive := change.value }
  | .multiLine => { fs with multiLine := change.value }
  | .dotAll => { fs with dotAll := change.value }
  | .swapGreed => { fs with swapGreed := change.value }
  | .unicode => { fs with unicode := change.value }
  | .crlf => { fs with crlf := change.value }
  | .verbose => fs

def setAll (fs : Flags) (changes : List FlagChange) : Flags := changes.foldl set fs

def fold (fs : Flags) (s : CharSet) : CharSet :=
  if !fs.caseInsensitive then s else if fs.unicode then s.fold else s.foldAscii

/-- Without the Unicode flag a set is one of bytes, and none beyond ASCII may be in it, since a
single one of those is no character. The sets that arise hold all such bytes or none. -/
def checkAscii (fs : Flags) (s : CharSet) : Except PatternError CharSet :=
  if !fs.unicode && s.mem 0x80 then .error .notAscii else .ok s

/-- A set as it stands in a class: first closed under folding, then perhaps negated. -/
def finish (fs : Flags) (negated : Bool) (s : CharSet) : Except PatternError CharSet :=
  fs.checkAscii (if negated then (fs.fold s).compl else fs.fold s)

end Flags

namespace AsciiClass

def charSet : AsciiClass → CharSet
  | alnum => .ofRanges [('0', '9'), ('A', 'Z'), ('a', 'z')]
  | alpha => .ofRanges [('A', 'Z'), ('a', 'z')]
  | ascii => .ascii
  | blank => .ofRanges [('\t', '\t'), (' ', ' ')]
  | cntrl => .ofRanges [('\x00', '\x1f'), ('\x7f', '\x7f')]
  | digit => .ofRanges [('0', '9')]
  | graph => .ofRanges [('!', '~')]
  | lower => .ofRanges [('a', 'z')]
  | print => .ofRanges [(' ', '~')]
  | punct => .ofRanges [('!', '/'), (':', '@'), ('[', '\x60'), ('\x7b', '~')]
  | space => .ofRanges [('\t', '\r'), (' ', ' ')]
  | upper => .ofRanges [('A', 'Z')]
  | word => .ofRanges [('0', '9'), ('A', 'Z'), ('_', '_'), ('a', 'z')]
  | xdigit => .ofRanges [('0', '9'), ('A', 'F'), ('a', 'f')]

end AsciiClass

namespace PerlClass

def charSet (unicode : Bool) : PerlClass → CharSet
  | digit => if unicode then .digit else AsciiClass.digit.charSet
  | space => if unicode then .space else AsciiClass.space.charSet
  | word => if unicode then .word else AsciiClass.word.charSet

end PerlClass

def resolveChar (fs : Flags) (c : Char) : Except PatternError Char :=
  if !fs.unicode && 0x80 ≤ c.toNat then .error .notAscii else .ok c

def resolvePerl (fs : Flags) (c : PerlClass) (negated : Bool) : Except PatternError CharSet :=
  let s := c.charSet fs.unicode
  fs.checkAscii (if negated then s.compl else s)

def resolveProperty (fs : Flags) (query : Unicode.PropertyQuery) (negated : Bool) :
    Except PatternError CharSet :=
  if !fs.unicode then .error .notAscii
  else match query.charSet? with
    | some s => fs.finish negated s
    | none => .error (.unknownProperty query)

namespace ClassSyntax

/-- The set of a class, before it is closed under folding as a whole. -/
def resolve (fs : Flags) : ClassSyntax → Except PatternError CharSet
  | nothing => .ok .none
  | char c => (resolveChar fs c).map CharSet.single
  | range a b => return .range (← resolveChar fs a) (← resolveChar fs b)
  | ascii c negated => fs.finish negated c.charSet
  | perl c negated => resolvePerl fs c negated
  | property query negated => resolveProperty fs query negated
  | bracket negated body => do fs.finish negated (← body.resolve fs)
  | both a b => return .union (← a.resolve fs) (← b.resolve fs)
  | op o a b => do
    let s := fs.fold (← a.resolve fs)
    let t := fs.fold (← b.resolve fs)
    match o with
    | .inter => return s.inter t
    | .diff => return s.diff t
    | .symmDiff => return s.symmDiff t

end ClassSyntax

namespace Assertion

def resolve (fs : Flags) : Assertion → Look
  | lineStart => if fs.multiLine then .lineStart fs.crlf else .textStart
  | lineEnd => if fs.multiLine then .lineEnd fs.crlf else .textEnd
  | textStart => .textStart
  | textEnd => .textEnd
  | boundary => .boundary fs.unicode
  | noBoundary => .noBoundary fs.unicode
  | wordStart => .wordStart fs.unicode
  | wordEnd => .wordEnd fs.unicode
  | wordStartHalf => .wordStartHalf fs.unicode
  | wordEndHalf => .wordEndHalf fs.unicode

end Assertion

namespace Syntax

def dotSet (fs : Flags) : CharSet :=
  if fs.dotAll then .all
  else if fs.crlf then .compl (.union (.single '\n') (.single '\r'))
  else .compl (.single '\n')

/-- The meaning of a pattern under the flags before it, and the flags behind it. Flags last to the
end of the group they are set in, and so past the bars of a choice. -/
def resolve (fs : Flags) : Syntax → Except PatternError (Pattern × Flags)
  | empty => .ok (.empty, fs)
  | setFlags changes => .ok (.empty, fs.setAll changes)
  | char c => .ok (.char (fs.fold (.single c)), fs)
  | byte c => return (.char (fs.fold (.single (← resolveChar fs c))), fs)
  | dot => if fs.unicode then .ok (.char (dotSet fs), fs) else .error .notAscii
  | assertion a => .ok (.look (a.resolve fs), fs)
  | perl c negated => return (.char (← resolvePerl fs c negated), fs)
  | property query negated => return (.char (← resolveProperty fs query negated), fs)
  | bracket negated body => do return (.char (← fs.finish negated (← body.resolve fs)), fs)
  | group (.capture index) body => return (.group index (← body.resolve fs).1, fs)
  | group (.plain changes) body => return ((← body.resolve (fs.setAll changes)).1, fs)
  | rep body min max greedy => do
    let (p, after) ← body.resolve fs
    return (p.repeated min max (greedy != after.swapGreed), after)
  | cat a b => do
    let (p, fs) ← a.resolve fs
    let (q, fs) ← b.resolve fs
    return (.cat p q, fs)
  | alt a b => do
    let (p, fs) ← a.resolve fs
    let (q, fs) ← b.resolve fs
    return (.alt p q, fs)

end Syntax

end Repath
