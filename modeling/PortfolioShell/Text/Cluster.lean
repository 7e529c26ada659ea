import PortfolioShell.Text.CharRange
import PortfolioShell.Text.ClusterTable

/-!
# Clusters

A cluster is what a reader takes for one character: a base with its marks, a syllable, a conjunct,
a flag, or pictographs that are joined. A text is cut between two neighbours unless a rule joins
them. Most rules look at the two neighbours only; those for conjuncts, joined pictographs and
flags also look at what stands before, which they are given nearest first.
-/
namespace PortfolioShell.Text

/-- What a character is to its neighbours. -/
inductive ClusterClass where
  | control
  | extend
  | joiner
  | spacing
  | prepend
  | lead
  | vowel
  | tail
  | openSyllable
  | closedSyllable
  | regional
  | pictograph
  | conjunct
  | other
deriving DecidableEq, Repr

/-- The zero width joiner and non-joiner. -/
def zeroWidthJoiner : Char := '\u200D'
def zeroWidthNonJoiner : Char := '\u200C'

/-- Whether a character is a whole syllable of Hangul. -/
def isSyllable (c : Char) : Bool := 0xAC00 ≤ c.toNat && c.toNat ≤ 0xD7A3

/-- Whether a character is half of a flag. -/
def isRegional (c : Char) : Bool := 0x1F1E6 ≤ c.toNat && c.toNat ≤ 0x1F1FF

/-- The class of a character. Every twenty-eighth syllable has no trailing consonant. -/
def clusterClass (c : Char) : ClusterClass :=
  if 0x20 ≤ c.toNat && c.toNat < 0x7F then .other
  else if inRanges controlRanges c then .control
  else if c = zeroWidthJoiner then .joiner
  else if isSyllable c then
    if (c.toNat - 0xAC00) % 28 = 0 then .openSyllable else .closedSyllable
  else if isRegional c then .regional
  else if inRanges extendRanges c then .extend
  else if inRanges spacingRanges c then .spacing
  else if inRanges prependRanges c then .prepend
  else if inRanges leadRanges c then .lead
  else if inRanges vowelRanges c then .vowel
  else if inRanges tailRanges c then .tail
  else if inRanges pictographRanges c then .pictograph
  else if inRanges conjunctRanges c then .conjunct
  else .other

/-- Whether neighbours of two classes join whatever stands before them. -/
def joinsAlways : ClusterClass → ClusterClass → Bool
  | .control, _ | _, .control => false
  | .lead, .lead | .lead, .vowel | .lead, .openSyllable | .lead, .closedSyllable => true
  | .vowel, .vowel | .vowel, .tail | .openSyllable, .vowel | .openSyllable, .tail => true
  | .tail, .tail | .closedSyllable, .tail => true
  | _, .extend | _, .joiner | _, .spacing => true
  | .prepend, _ => true
  | _, _ => false

/-- Whether a character may stand between the consonants of a conjunct. -/
def staysInConjunct (c : Char) : Bool :=
  (clusterClass c == .extend || clusterClass c == .joiner) && c != zeroWidthNonJoiner

/-- Whether a consonant before, with a link after it, waits for another one. `linked` tells
whether a link has been met. -/
def awaitsConsonant (linked : Bool) : List Char → Bool
  | [] => false
  | c :: before =>
    if inRanges linkerRanges c then awaitsConsonant true before
    else if staysInConjunct c then awaitsConsonant linked before
    else linked && clusterClass c == .conjunct

/-- Whether a joiner after a pictograph waits for another one. -/
def awaitsPictograph : List Char → Bool
  | [] => false
  | c :: before =>
    clusterClass c == .joiner &&
      match before.dropWhile (clusterClass · == .extend) with
      | base :: _ => clusterClass base == .pictograph
      | [] => false

/-- Whether half a flag waits for its other half. It does unless it is the other half of the one
before it. -/
def awaitsRegional : List Char → Bool
  | [] => false
  | c :: before => isRegional c && !awaitsRegional before

/-- Whether a character belongs to the cluster of the characters before it. -/
def joins (before : List Char) (c : Char) : Bool :=
  match before with
  | [] => false
  | last :: _ =>
    (last == '\r' && c == '\n') || joinsAlways (clusterClass last) (clusterClass c) ||
      match clusterClass c with
      | .conjunct => awaitsConsonant false before
      | .pictograph => awaitsPictograph before
      | .regional => awaitsRegional before
      | _ => false

/-- Puts a character in front of the first cluster. -/
def consCluster (c : Char) : List (List Char) → List (List Char)
  | [] => [[c]]
  | cluster :: more => (c :: cluster) :: more

/-- The clusters of a text after the characters `before`, nearest first. The text is taken to
begin a cluster. -/
def clustersAfter (before : List Char) : List Char → List (List Char)
  | [] => []
  | [c] => [[c]]
  | c :: d :: rest =>
    let more := clustersAfter (c :: before) (d :: rest)
    if joins (c :: before) d then consCluster c more else [c] :: more

/-- The clusters of a text. -/
def clusters (text : List Char) : List (List Char) := clustersAfter [] text

end PortfolioShell.Text
