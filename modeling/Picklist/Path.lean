import Picklist.Number.Decimal
import Picklist.Unicode.GraphemeBreak
import Picklist.Unicode.WhiteSpace

/-!
# File paths

Paths are texts with slashes between their parts. Repeated slashes and dots between slashes do not
count. Paths are ordered part by part.
-/

set_option autoImplicit false

namespace Picklist

/-- A file path. -/
abbrev Path := String

/-- A part of a path. -/
inductive PathPart where
  /-- The slash that starts an absolute path. -/
  | root
  /-- A dot that starts a path. -/
  | here
  | parent
  | name (text : String)
  deriving Repr, DecidableEq, Inhabited

namespace PathPart

/-- The order of the kinds of parts. -/
def rank : PathPart → Nat
  | .root => 0
  | .here => 1
  | .parent => 2
  | .name _ => 3

/-- Whether a part stands before another one. -/
def precedes (a b : PathPart) : Bool :=
  match a, b with
  | .name x, .name y => decide (x < y)
  | _, _ => a.rank < b.rank

end PathPart

namespace Path

/-- The parts of a path. -/
def parts (path : Path) : List PathPart :=
  let isAbsolute := path.toList.head? == some '/'
  let pieces := (path.toList.splitOn '/').map String.ofList
  let first : List PathPart :=
    if isAbsolute then [.root]
    else if pieces.head? == some "." then [.here]
    else []
  first ++ pieces.filterMap fun piece =>
    if piece.isEmpty ∨ piece = "." then none
    else if piece = ".." then some .parent
    else some (.name piece)

/-- Whether a list of parts stands before another one or is the same. -/
def partsPrecede : List PathPart → List PathPart → Bool
  | [], _ => true
  | _ :: _, [] => false
  | a :: as, b :: bs => a.precedes b || (a == b && partsPrecede as bs)

/-- Whether a path stands before another one or has the same parts. -/
def le (a b : Path) : Bool := partsPrecede (parts a) (parts b)

/-- The path of something in a directory. -/
def join (directory name : Path) : Path :=
  if name.toList.head? == some '/' ∨ directory.isEmpty then name
  else if directory.toList.getLast? == some '/' then directory ++ name
  else directory ++ "/" ++ name

/-- Whether the path starts at the root. -/
def isAbsolute (path : Path) : Bool := path.toList.head? == some '/'

/-- The name of what the path leads to. -/
def fileName? (path : Path) : Option String :=
  match (parts path).getLast? with
  | some (.name text) => some text
  | _ => none

/-- The part of the file's name behind its last dot; a dot that starts the name does not count. -/
def extension? (path : Path) : Option String := do
  let name ← fileName? path
  let last := (name.toList.reverse.takeWhile (· != '.')).reverse
  if name.length ≤ last.length + 1 then none else some (String.ofList last)

/-- Whether a character has no meaning outside the programs that agreed on it. -/
def isPrivate (c : Char) : Bool :=
  (0xE000 ≤ c.toNat && c.toNat ≤ 0xF8FF) || 0xF0000 ≤ c.toNat

/-- Whether a character only extends the one before it. -/
def isExtension (c : Char) : Bool :=
  Unicode.breakClass c == .extend && !(0x1F3FB ≤ c.toNat && c.toNat ≤ 0x1F3FF)

/-- Whether a character can be seen by itself. -/
def isVisible (c : Char) : Bool :=
  c == ' ' || !(Unicode.isWhiteSpace c || isPrivate c || isExtension c
    || Unicode.breakClass c == .control || Unicode.breakClass c == .joiner)

/-- A character within quotes. Characters that cannot be seen are given by their code. -/
def quotedChar (c : Char) : List Char :=
  match c with
  | '\x00' => ['\\', '0']
  | '\t' => ['\\', 't']
  | '\r' => ['\\', 'r']
  | '\n' => ['\\', 'n']
  | '\\' => ['\\', '\\']
  | '\x22' => ['\\', '\x22']
  | _ =>
    if isVisible c then [c]
    else '\\' :: 'u' :: '\x7b' :: (Nat.toDigits 16 c.toNat ++ ['\x7d'])

/-- The path in quotes. -/
def quoted (path : Path) : String :=
  String.ofList ('\x22' :: (path.toList.flatMap quotedChar ++ ['\x22']))

end Path

end Picklist
