/-!
# Readers

A reader takes what it reads from the front of a text and leaves the rest. It fails when the text
does not start with what it reads.
-/

set_option autoImplicit false

namespace Picklist

/-- Takes something from the front of a text. -/
abbrev Reader (α : Type) := List Char → Option (α × List Char)

namespace Reader

/-- Takes a fixed word, and answers with what is behind it. -/
def word : List Char → List Char → Option (List Char)
  | [], cs => some cs
  | w :: ws, c :: cs => if w = c then word ws cs else none
  | _ :: _, [] => none

/-- Takes the longest run of characters of a class. -/
def run (belongs : Char → Bool) (cs : List Char) : List Char × List Char :=
  (cs.takeWhile belongs, cs.dropWhile belongs)

section Lists

variable {α : Type} (item : Reader α) (space : List Char → Option (List Char)) (closing : Char)
  (trailing : Bool)

/-- Takes the items behind the first one. -/
def laterItems : Nat → Reader (List α)
  | 0, _ => none
  | fuel + 1, cs => do
    match ← space cs with
    | c :: rest =>
      if c = closing then some ([], rest)
      else if c = ',' then
        let rest ← space rest
        if trailing && rest.head? == some closing then some ([], rest.tail)
        else
          let (first, rest) ← item rest
          let (others, rest) ← laterItems fuel rest
          some (first :: others, rest)
      else none
    | [] => none

/-- Takes items with commas between them up to the closing character. Between the parts there may be
blank space; a comma may stand behind the last item where `trailing` says so. -/
def items (cs : List Char) : Option (List α × List Char) := do
  let cs ← space cs
  if cs.head? == some closing then some ([], cs.tail)
  else
    let (first, rest) ← item cs
    let (others, rest) ← laterItems item space closing trailing cs.length rest
    some (first :: others, rest)

end Lists

end Reader

end Picklist
