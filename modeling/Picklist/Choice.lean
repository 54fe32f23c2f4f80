/-!
# Choices

What a list offers. A choice is known by its key: two choices with one key are the same choice, even
where their labels differ.
-/

set_option autoImplicit false

namespace Picklist

/-- Something that can be chosen. -/
structure Choice where
  key : String
  /-- The text on display, which queries are matched against. -/
  label : String
  /-- Further texts that queries are matched against. -/
  keywords : List String := []
  /-- A disabled choice is never listed and cannot be selected. -/
  disabled : Bool := false
  deriving Repr, DecidableEq, Inhabited

namespace Choice

/-- The choice whose key is its label. -/
def ofLabel (label : String) : Choice := { key := label, label }

/-- The texts that queries are matched against. -/
def texts (c : Choice) : List String := c.label :: c.keywords

end Choice

end Picklist
