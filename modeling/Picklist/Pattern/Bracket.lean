import Picklist.Pattern.Escape

/-!
# Bracketed classes

A bracketed class lists characters, ranges, shorthand classes and further classes, and can combine
what stands before and behind an operator. Classes nest, so the reader keeps the open ones on a
stack.
-/

set_option autoImplicit false

namespace Picklist.Pattern

/-- An operator between two parts of a class. -/
inductive SetOperator where
  | both
  /-- Members of the first part only. -/
  | without
  | either
  deriving Repr, DecidableEq

/-- The set that the operator makes of two parts. -/
def SetOperator.apply : SetOperator → CharSet → CharSet → CharSet
  | both => .intersection
  | without => .difference
  | either => .symmetricDifference

/-- A class that has been opened. -/
structure OpenClass where
  /-- Whether the class is the complement of what it lists. -/
  negated : Bool
  /-- The part before the last operator, and that operator. -/
  pending : Option (CharSet × SetOperator) := none
  listed : CharSet := .empty
  deriving Repr, DecidableEq

namespace OpenClass

/-- Adds members. -/
def list (k : OpenClass) (s : CharSet) : OpenClass :=
  { k with listed := .union k.listed s }

/-- What the class holds so far. -/
def value (k : OpenClass) : CharSet :=
  match k.pending with
  | some (before, operator) => operator.apply before k.listed
  | none => k.listed

/-- Starts the part behind an operator. -/
def operate (k : OpenClass) (operator : SetOperator) : OpenClass :=
  { k with pending := some (k.value, operator), listed := .empty }

/-- The finished class. -/
def close (k : OpenClass) : CharSet :=
  if k.negated then .complement k.value else k.value

end OpenClass

/-- Opens a class behind its bracket: a caret negates it, hyphens at its start are members, and so
is a closing bracket that comes first. -/
def openClass (cs : List Char) : OpenClass × List Char :=
  let (negated, cs) := match cs with
    | '^' :: rest => (true, rest)
    | _ => (false, cs)
  let hyphens := cs.takeWhile (· == '-')
  let opened : OpenClass := hyphens.foldl (fun k c => k.list (.single c)) { negated }
  match hyphens, cs.drop hyphens.length with
  | [], ']' :: rest => (opened.list (.single ']'), rest)
  | _, rest => (opened, rest)

/-- The ASCII classes that are written by name. -/
def namedClasses : List (String × CharSet) :=
  let upper := CharSet.range 'A' 'Z'
  let lower := CharSet.range 'a' 'z'
  let digits := CharSet.range '0' '9'
  let letters := CharSet.union upper lower
  let alphanumeric := CharSet.union letters digits
  [("alnum", alphanumeric), ("alpha", letters), ("ascii", .range '\x00' '\x7f'),
    ("blank", .union (.single '\t') (.single ' ')),
    ("cntrl", .union (.range '\x00' '\x1f') (.single '\x7f')), ("digit", digits),
    ("graph", .range '!' '~'), ("lower", lower), ("print", .range ' ' '~'),
    ("punct", .unions [.range '!' '/', .range ':' '@', .range '[' '\x60', .range '\x7b' '~']),
    ("space", .union (.range '\t' '\r') (.single ' ')), ("upper", upper),
    ("word", .union alphanumeric (.single '_')),
    ("xdigit", .unions [digits, .range 'A' 'F', .range 'a' 'f'])]

/-- Reads a named class from behind its opening bracket, if one stands there. -/
def readNamedClass? : List Char → Option (CharSet × List Char)
  | ':' :: cs =>
    let (negated, cs) := match cs with
      | '^' :: rest => (true, rest)
      | _ => (false, cs)
    match cs.span (· != ':') with
    | (name, ':' :: ']' :: rest) =>
      (namedClasses.lookup (String.ofList name)).map fun s =>
        (if negated then .complement s else s, rest)
    | _ => none
  | _ => none

/-- Reads one member of a class. -/
def readMember : List Char → Option (Escaped × List Char)
  | [] => none
  | '\\' :: cs => readEscape cs
  | c :: cs => some (.char c, cs)

/-- Reads one member or a range of them. A hyphen makes a range unless the class ends or an operator
stands behind it. -/
def readRange (cs : List Char) : Option (CharSet × List Char) :=
  match readMember cs with
  | some (.char first, '-' :: rest) =>
    match rest with
    | [] => none
    | c :: _ =>
      if c == ']' || c == '-' then some (.single first, '-' :: rest)
      else
        match readMember rest with
        | some (.char last, rest) => if first ≤ last then some (.range first last, rest) else none
        | _ => none
  | some (.char c, rest) => if rest.isEmpty then none else some (.single c, rest)
  | some (.set s, rest) =>
    match rest with
    | [] => none
    | '-' :: c :: _ => if c == ']' || c == '-' then some (s, rest) else none
    | _ => some (s, rest)
  | _ => none

/-- Reads the rest of the innermost open class and then of the ones around it. -/
def readClasses (inner : OpenClass) (around : List OpenClass) (cs : List Char) :
    Option (CharSet × List Char) :=
  match cs with
  | [] => none
  | '[' :: rest =>
    match readNamedClass? rest with
    | some (s, rest') =>
      if _h : rest'.length ≤ rest.length then readClasses (inner.list s) around rest' else none
    | none =>
      let (opened, rest') := openClass rest
      if _h : rest'.length ≤ rest.length then readClasses opened (inner :: around) rest' else none
  | ']' :: rest =>
    match around with
    | [] => some (inner.close, rest)
    | outer :: around => readClasses (outer.list inner.close) around rest
  | '&' :: '&' :: rest => readClasses (inner.operate .both) around rest
  | '-' :: '-' :: rest => readClasses (inner.operate .without) around rest
  | '~' :: '~' :: rest => readClasses (inner.operate .either) around rest
  | c :: rest =>
    match readRange (c :: rest) with
    | some (s, rest') =>
      if _h : rest'.length ≤ rest.length then readClasses (inner.list s) around rest' else none
    | none => none
termination_by cs.length
decreasing_by all_goals (simp only [List.length_cons] at *; omega)

/-- Reads a bracketed class from behind its opening bracket. -/
def readClass (cs : List Char) : Option (CharSet × List Char) :=
  let (opened, rest) := openClass cs
  readClasses opened [] rest

end Picklist.Pattern
