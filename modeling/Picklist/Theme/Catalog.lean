import Picklist.Theme.Definition
import Picklist.Unicode.Utf8

/-!
# Catalogs of themes

A catalog is read from files that define one theme each, in the order of their paths. The default
theme is the one that says so, of which there is at most one, or else the first.
-/

set_option autoImplicit false

namespace Picklist.Theme

/-- A file with the definition of a theme. -/
structure ThemeFile where
  path : Path
  bytes : List UInt8
  deriving Repr, DecidableEq, Inhabited

/-- Why a catalog cannot be read. -/
inductive CatalogError where
  | notText (path : Path)
  /-- A file does not define a theme. -/
  | notATheme (path : Path)
  | style (path : Path) (part : String) (cause : StyleError)
  | twoDefaults (first second : String)
  | empty
  deriving Repr, DecidableEq, Inhabited

namespace CatalogError

/-- What is wrong, in words. -/
def message : CatalogError → String
  | .notText path => path.quoted ++ " is not valid UTF-8"
  | .notATheme path => "failed to parse built-in theme " ++ path.quoted
  | .style path part cause => path.quoted ++ "." ++ part ++ ": " ++ cause.message
  | .twoDefaults first second =>
    "built-in themes \x60" ++ first ++ "\x60 and \x60" ++ second ++ "\x60 are both marked default"
  | .empty => "no built-in theme definitions were found"

end CatalogError

/-- Themes with one of them as the default. -/
structure Catalog where
  themes : List NamedTheme
  defaultTheme : Theme
  deriving Repr, DecidableEq, Inhabited

/-- A theme read from a file, and whether it is the default. -/
def readFile (file : ThemeFile) : Except CatalogError (NamedTheme × Bool) :=
  match Unicode.decode? file.bytes with
  | none => .error (.notText file.path)
  | some text =>
    match (Toml.parse? text).bind definition? with
    | none => .error (.notATheme file.path)
    | some d =>
      match d.toTheme with
      | .error (part, cause) => .error (.style file.path part cause)
      | .ok theme => .ok (d.toNamedTheme theme, d.isDefault)

/-- Reads files one after the other, given the default among those before. -/
def readFiles (marked : Option NamedTheme) :
    List ThemeFile → Except CatalogError (List NamedTheme × Option NamedTheme)
  | [] => .ok ([], marked)
  | file :: rest => do
    let (theme, isDefault) ← readFile file
    let marked ←
      match isDefault, marked with
      | false, _ => .ok marked
      | true, none => .ok (some theme)
      | true, some earlier => .error (.twoDefaults earlier.name theme.name)
    let (themes, marked) ← readFiles marked rest
    .ok (theme :: themes, marked)

/-- Reads a catalog. -/
def readCatalog (files : List ThemeFile) : Except CatalogError Catalog := do
  let (themes, marked) ← readFiles none (files.mergeSort fun a b => a.path.le b.path)
  match marked <|> themes.head? with
  | some t => .ok { themes, defaultTheme := t.theme }
  | none => .error .empty

end Picklist.Theme
