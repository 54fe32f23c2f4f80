import Picklist.Unicode.GraphemeBreak

/-!
# Grapheme clusters

Text is cut into the units that a reader takes for one character: a letter with its marks, a Hangul
syllable, a picture joined from several, a flag. Whether a cluster goes on depends on the next
character and on what the cluster holds so far.
-/

set_option autoImplicit false

namespace Picklist.Unicode

/-- How far a pair of consonants joined by a linker has been read. -/
inductive Conjunct where
  | closed
  /-- A consonant, possibly with extending characters. -/
  | consonant
  | linked
  deriving Repr, DecidableEq, Inhabited

/-- What is known of the cluster being read. -/
structure ClusterState where
  /-- The class of its last character. -/
  last : BreakClass
  /-- An odd number of flag halves has been read. -/
  halfFlag : Bool
  /-- It ends in a pictograph with extending characters. -/
  afterPictograph : Bool
  pictographJoined : Bool
  conjunct : Conjunct
  deriving Repr, DecidableEq, Inhabited

namespace ClusterState

/-- The state behind one character, given the state before it within the same cluster. -/
def after (before : Option ClusterState) (c : Char) : ClusterState :=
  let cls := breakClass c
  let extending := cls == .extend
  { last := cls
    halfFlag := cls == .regionalIndicator && !before.any (·.halfFlag)
    afterPictograph := cls == .pictograph || (extending && before.any (·.afterPictograph))
    pictographJoined := cls == .joiner && before.any (·.afterPictograph)
    conjunct :=
      if conjunctConsonantRanges.contains c then .consonant
      else
        match before.map ClusterState.conjunct with
        | some .consonant =>
          if conjunctLinkerRanges.contains c then .linked
          else if extending || cls == .joiner then .consonant
          else .closed
        | some .linked => if extending || cls == .joiner then .linked else .closed
        | _ => .closed }

/-- Whether the class ends the cluster before it whatever that is. -/
def standsAlone (cls : BreakClass) : Bool :=
  cls == .control || cls == .carriageReturn || cls == .lineFeed

/-- Whether two Hangul classes stay together. -/
def joinsHangul : BreakClass → BreakClass → Bool
  | .hangulLeading, next =>
    next == .hangulLeading || next == .hangulVowel || next == .hangulOpen || next == .hangulClosed
  | .hangulOpen, next => next == .hangulVowel || next == .hangulTrailing
  | .hangulVowel, next => next == .hangulVowel || next == .hangulTrailing
  | .hangulClosed, next => next == .hangulTrailing
  | .hangulTrailing, next => next == .hangulTrailing
  | _, _ => false

/-- Whether the next character belongs to the cluster. -/
def continues (s : ClusterState) (c : Char) : Bool :=
  let next := breakClass c
  if s.last == .carriageReturn && next == .lineFeed then true
  else if standsAlone s.last || standsAlone next then false
  else
    joinsHangul s.last next
      || next == .extend || next == .joiner || next == .spacingMark
      || s.last == .prepend
      || (s.conjunct == .linked && conjunctConsonantRanges.contains c)
      || (s.pictographJoined && next == .pictograph)
      || (s.halfFlag && next == .regionalIndicator)

end ClusterState

/-- Cuts the text into clusters, the first of which begins with the characters of `current`, given
in reverse. -/
def graphemesFrom (state : ClusterState) (current : List Char) : List Char → List (List Char)
  | [] => [current.reverse]
  | c :: rest =>
    if state.continues c then graphemesFrom (.after (some state) c) (c :: current) rest
    else current.reverse :: graphemesFrom (.after none c) [c] rest

/-- The grapheme clusters of a text. -/
def graphemes : List Char → List (List Char)
  | [] => []
  | c :: rest => graphemesFrom (.after none c) [c] rest

end Picklist.Unicode
