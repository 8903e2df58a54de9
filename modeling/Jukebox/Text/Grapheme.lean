import Jukebox.Text.Grapheme.Role

/-
# What readers take for one character

A text is cut into clusters, each of which is drawn in one place: a letter with its accents, a
syllable, an emoji with its modifiers, a flag. A cluster ends wherever no rule says that it goes on,
and the clusters of a text, one after another, are the text.
-/

namespace Jukebox.Text

/-- How far a cluster has come in tying a consonant to another. -/
inductive Conjunct where
  | apart
  /-- The cluster ends with a consonant and marks on it. -/
  | begun
  /-- One of the marks ties the consonant to the next one. -/
  | tied
deriving DecidableEq, Repr

/-- The state after a character of the role. -/
def Conjunct.next (conjunct : Conjunct) (role : ClusterRole) : Conjunct :=
  match role with
  | .consonant => .begun
  | .linker => if conjunct = .apart then .apart else .tied
  | .extend | .joiner => conjunct
  | _ => .apart

/-- What counts of the characters of a cluster for how it goes on. -/
structure ClusterState where
  /-- The role of the last character. -/
  last : ClusterRole
  /-- Whether the cluster ends with a pictograph and marks on it. -/
  afterPictograph : Bool
  /-- Whether a joiner follows such a pictograph. -/
  joined : Bool
  /-- Whether the number of regional indicators up to here is odd. -/
  oddRegional : Bool
  conjunct : Conjunct

/-- The state of a cluster that begins with a character of the role. -/
def ClusterState.first (role : ClusterRole) : ClusterState :=
  { last := role, afterPictograph := role = .pictograph, joined := false,
    oddRegional := role = .regional, conjunct := Conjunct.apart.next role }

/-- The state of a cluster that goes on with a character of the role. -/
def ClusterState.next (state : ClusterState) (role : ClusterRole) : ClusterState :=
  { last := role
    afterPictograph := role = .pictograph || (state.afterPictograph && role.isMark)
    joined := role = .joiner && state.afterPictograph
    oddRegional := role = .regional && !state.oddRegional
    conjunct := state.conjunct.next role }

/-- Whether a cluster goes on with a character of the role. -/
def ClusterState.goesOn (state : ClusterState) (role : ClusterRole) : Bool :=
  match state.last, role with
  | .carriageReturn, .lineFeed => true
  | .carriageReturn, _ | .lineFeed, _ | .control, _ => false
  | _, .carriageReturn | _, .lineFeed | _, .control => false
  | _, .extend | _, .linker | _, .nonJoiner | _, .joiner | _, .spacing => true
  | .prepend, _ => true
  | .leading, .leading | .leading, .vowel | .leading, .openSyllable
  | .leading, .closedSyllable => true
  | .openSyllable, .vowel | .vowel, .vowel | .openSyllable, .trailing | .vowel, .trailing => true
  | .closedSyllable, .trailing | .trailing, .trailing => true
  | _, .consonant => state.conjunct = .tied
  | .joiner, .pictograph => state.joined
  | .regional, .regional => state.oddRegional
  | _, _ => false

/-- Cuts the rest of a text into clusters, given the cluster that is not complete yet, its last
character first. -/
def clustersFrom (current : List Char) (state : ClusterState) : List Char → List (List Char)
  | [] => [current.reverse]
  | c :: rest =>
    let role := clusterRole c
    if state.goesOn role then clustersFrom (c :: current) (state.next role) rest
    else current.reverse :: clustersFrom [c] (.first role) rest

/-- The clusters of a text. -/
def clusters : List Char → List (List Char)
  | [] => []
  | c :: rest => clustersFrom [c] (.first (clusterRole c)) rest

end Jukebox.Text
