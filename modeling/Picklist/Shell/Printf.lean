import Picklist.Shell.Escape
import Picklist.Text.Reader

/-!
# Printing by a format

A format is text with directives in it. Every directive prints the next argument, or an empty one
when there are no more. The format is used again as long as there are arguments and it takes some.
-/

set_option autoImplicit false

namespace Picklist.Shell

/-- A size in a directive. -/
inductive Size where
  | fixed (n : Nat)
  | argument
  deriving Repr, DecidableEq, Inhabited

/-- A directive. -/
structure Directive where
  /-- The signs that say how the value is laid out. -/
  flags : List Char := []
  width : Option Size := none
  /-- The least number of digits, or the greatest number of bytes of a text. -/
  precision : Option Size := none
  /-- The letter that says what is printed. -/
  conversion : Char
  deriving Repr, DecidableEq, Inhabited

/-- A piece of a format. -/
inductive FormatPiece where
  /-- Bytes that are printed as they are. -/
  | plain (bytes : List UInt8)
  | directive (d : Directive)
  /-- A directive that does not exist. -/
  | unknown (text : List Char)
  /-- The start of a directive at the end of the format. -/
  | unfinished
  deriving Repr, DecidableEq, Inhabited

/-- Whether a sign says how a value is laid out. -/
def isFlag (c : Char) : Bool := c == '#' || c == '-' || c == '+' || c == ' ' || c == '0'

/-- The letters of the directives. -/
def conversions : List Char := ['b', 'c', 's', 'd', 'i', 'o', 'u', 'x', 'X']

/-- Takes a size. -/
def size (cs : List Char) : Option Size × List Char :=
  match cs with
  | '*' :: rest => (some .argument, rest)
  | _ =>
    let (digits, rest) := Reader.run Char.isDigit cs
    (if digits.isEmpty then none else some (.fixed (digitsValue 10 digits)), rest)

/-- Takes a precision. Where nothing stands behind the point, it is zero. -/
def precision (cs : List Char) : Option Size × List Char :=
  match cs with
  | '.' :: rest =>
    let (given, rest) := size rest
    (some (given.getD (.fixed 0)), rest)
  | _ => (none, cs)

/-- Takes a directive behind its percent sign. -/
def directive (cs : List Char) : FormatPiece × List Char :=
  let (flags, rest) := Reader.run isFlag cs
  let (width, rest) := size rest
  let (precision, rest) := precision rest
  match rest with
  | [] => (.unfinished, [])
  | c :: rest =>
    if conversions.contains c then (.directive ⟨flags, width, precision, c⟩, rest)
    else (.unknown ('%' :: cs.take (cs.length - rest.length)), rest)

/-- The pieces of a format, found with as many steps as given. -/
def formatPieces : Nat → List Char → List FormatPiece
  | 0, _ => []
  | _ + 1, [] => []
  | fuel + 1, '\\' :: rest =>
    let (b, rest) := escape rest
    .plain [b] :: formatPieces fuel rest
  | fuel + 1, '%' :: '%' :: rest => .plain (Unicode.encode ['%']) :: formatPieces fuel rest
  | fuel + 1, '%' :: rest =>
    let (piece, rest) := directive rest
    piece :: formatPieces fuel rest
  | fuel + 1, c :: rest => .plain (Unicode.encode [c]) :: formatPieces fuel rest

/-! ## Numbers -/

/-- Takes the base of a number. -/
def base (cs : List Char) : Nat × List Char :=
  match cs with
  | '0' :: x :: d :: rest =>
    if (x == 'x' || x == 'X') && isDigitIn 16 d then (16, d :: rest) else (8, cs)
  | '0' :: _ => (8, cs)
  | _ => (10, cs)

/-- Takes a number without a sign. -/
def unsignedInteger? (cs : List Char) : Option (Nat × List Char) :=
  let (radix, rest) := base cs
  let (digits, rest) := Reader.run (isDigitIn radix) rest
  if digits.isEmpty then none else some (digitsValue radix digits, rest)

/-- Takes a sign, and says whether it is a minus sign. -/
def minusSign (cs : List Char) : Bool × List Char :=
  match cs with
  | '-' :: rest => (true, rest)
  | '+' :: rest => (false, rest)
  | _ => (false, cs)

/-- Takes an integer behind blank space. Where there is none, it is zero and nothing is taken. -/
def integer (cs : List Char) : Int × List Char :=
  let (isNegative, rest) := minusSign (cs.dropWhile (·.isWhitespace))
  match unsignedInteger? rest with
  | some (n, rest) => (if isNegative then -(n : Int) else n, rest)
  | none => (0, cs)

/-- The integers that a number is brought into. -/
structure IntegerRange where
  least : Int
  greatest : Int

/-- Integers of 64 bits with sign. -/
def signedRange : IntegerRange := ⟨leastInteger, greatestInteger⟩

/-- Integers of 64 bits without sign; a minus sign counts back from the greatest one. -/
def unsignedRange : IntegerRange := ⟨-(largestWord : Int), largestWord⟩

/-- The number that an argument spells, and what is wrong with it. A quote in front stands for the
first byte behind it. -/
def argumentNumber (range : IntegerRange) (cs : List Char) : Int × Option String :=
  let quoted (rest : List Char) : Int := ((Unicode.encode rest).head?.map UInt8.toNat).getD 0
  match cs with
  | '\x27' :: rest => (quoted rest, none)
  | '\x22' :: rest => (quoted rest, none)
  | _ =>
    let (n, rest) := integer cs
    let text := String.ofList cs
    let clamped := max range.least (min range.greatest n)
    if !rest.isEmpty then
      if rest.length = cs.length then (clamped, some (text ++ ": expected numeric value"))
      else (clamped, some (text ++ ": not completely converted"))
    else if clamped ≠ n then (clamped, some (text ++ ": Numerical result out of range"))
    else (n, none)

/-! ## Laying out values -/

/-- How a value is laid out. -/
structure Layout where
  /-- Blank space comes behind the value. -/
  left : Bool
  /-- Zeros come in front of a number. -/
  zeros : Bool
  /-- What stands in front of a number that is not negative. -/
  sign : List Char
  /-- The base of a number is shown. -/
  showBase : Bool
  width : Nat
  /-- The least number of digits, or the greatest number of bytes of a text. -/
  precision : Option Nat
  deriving Repr, DecidableEq, Inhabited

/-- A value with blank space up to the width. -/
def Layout.pad (l : Layout) (bytes : List UInt8) : List UInt8 :=
  let space := Unicode.encode (List.replicate (l.width - bytes.length) ' ')
  if l.left then bytes ++ space else space ++ bytes

/-- A text, cut and padded. -/
def Layout.text (l : Layout) (bytes : List UInt8) : List UInt8 :=
  l.pad (match l.precision with
    | some most => bytes.take most
    | none => bytes)

/-- The digits of a number in the base of a conversion. -/
def digitsOf (conversion : Char) (n : Nat) : List Char :=
  match conversion with
  | 'o' => Nat.toDigits 8 n
  | 'x' => Nat.toDigits 16 n
  | 'X' => (Nat.toDigits 16 n).map Char.toUpper
  | _ => Nat.toDigits 10 n

/-- What shows the base of a number in front of its digits. -/
def baseSign (conversion : Char) (n : Nat) : List Char :=
  if n = 0 then []
  else match conversion with
    | 'x' => ['0', 'x']
    | 'X' => ['0', 'X']
    | 'o' => ['0']
    | _ => []

/-- A number, padded. -/
def Layout.number (l : Layout) (conversion : Char) (n : Int) : List UInt8 :=
  let isSigned := conversion == 'd' || conversion == 'i'
  let magnitude := if isSigned then n.natAbs else (n % (largestWord + 1 : Nat)).toNat
  let sign := if isSigned then (if n < 0 then ['-'] else l.sign) else []
  let front := sign ++ (if l.showBase then baseSign conversion magnitude else [])
  let digits := if magnitude = 0 ∧ l.precision = some 0 then [] else digitsOf conversion magnitude
  let least :=
    match l.precision with
    | some least => least
    | none => if l.zeros && !l.left then l.width - front.length else 0
  l.pad (Unicode.encode (front ++ List.replicate (least - digits.length) '0' ++ digits))

/-! ## Printing -/

/-- What is printed so far. -/
structure Printing where
  arguments : List (List Char)
  output : List UInt8 := []
  complaints : List String := []
  /-- What is wrong with the format, which ends the printing. -/
  fault : Option String := none
  /-- Whether an argument ended the printing. -/
  ended : Bool := false
  deriving Repr, DecidableEq, Inhabited

namespace Printing

/-- Whether nothing more is printed. -/
def isOver (p : Printing) : Bool := p.ended || p.fault.isSome

/-- Takes an argument. -/
def nextText (p : Printing) : List Char × Printing :=
  match p.arguments with
  | [] => ([], p)
  | a :: rest => (a, { p with arguments := rest })

/-- Takes an argument that is a number. -/
def nextNumber (p : Printing) (range : IntegerRange) : Int × Printing :=
  match p.arguments with
  | [] => (0, p)
  | a :: rest =>
    let (n, complaint) := argumentNumber range a
    (n, { p with arguments := rest, complaints := p.complaints ++ complaint.toList })

/-- The number that a size stands for. -/
def sizeOf (p : Printing) : Option Size → Option Int × Printing
  | none => (none, p)
  | some (.fixed n) => (some n, p)
  | some .argument =>
    let (n, p) := p.nextNumber signedRange
    (some n, p)

/-- How the value of a directive is laid out. A width below zero puts the blank space behind the
value, and a precision below zero is none. -/
def layout (p : Printing) (d : Directive) : Layout × Printing :=
  let (width, p) := p.sizeOf d.width
  let (precision, p) := p.sizeOf d.precision
  ({  left := d.flags.contains '-' || decide (width.getD 0 < 0)
      zeros := d.flags.contains '0'
      sign := if d.flags.contains '+' then ['+'] else if d.flags.contains ' ' then [' '] else []
      showBase := d.flags.contains '#'
      width := (width.getD 0).natAbs
      precision := (precision.filter (0 ≤ ·)).map Int.toNat }, p)

/-- Prints bytes. -/
def put (p : Printing) (bytes : List UInt8) : Printing := { p with output := p.output ++ bytes }

/-- Prints the argument of a directive. -/
def putDirective (p : Printing) (d : Directive) : Printing :=
  let (l, p) := p.layout d
  match d.conversion with
  | 's' =>
    let (text, p) := p.nextText
    p.put (l.text (Unicode.encode text))
  | 'b' =>
    let (text, p) := p.nextText
    let (bytes, ended) := unescaped text
    { p.put (l.text bytes) with ended := ended }
  | 'c' =>
    let (text, p) := p.nextText
    p.put (l.pad [(Unicode.encode text).headD 0])
  | c =>
    let (n, p) := p.nextNumber (if c == 'd' || c == 'i' then signedRange else unsignedRange)
    p.put (l.number c n)

/-- Prints a piece of a format. -/
def putPiece (p : Printing) (piece : FormatPiece) : Printing :=
  if p.isOver then p
  else
    match piece with
    | .plain bytes => p.put bytes
    | .directive d => p.putDirective d
    | .unknown text => { p with fault := some (String.ofList text ++ ": invalid directive") }
    | .unfinished => { p with fault := some "missing format character" }

/-- Prints the format, again and again at most as often as given. -/
def repeatFormat (pieces : List FormatPiece) : Nat → Printing → Printing
  | 0, p => p
  | rounds + 1, p =>
    let after := pieces.foldl putPiece p
    let isDone := after.isOver || after.arguments.isEmpty
    if isDone || after.arguments.length = p.arguments.length then after
    else repeatFormat pieces rounds after

end Printing

/-- Prints arguments by a format. -/
def printf (format : List Char) (arguments : List (List Char)) : Printing :=
  Printing.repeatFormat (formatPieces format.length format) (arguments.length + 1)
    { arguments := arguments }

end Picklist.Shell
