import SelectFind.Text.Cluster.Kind

/-!
# Clusters

A text is a row of clusters, each of which a reader takes for one character. The rules are those of
extended grapheme clusters: a character joins the cluster before it or begins one of its own. One
after the other the clusters are the text.
-/

namespace SelectFind.Text.Cluster

/-- Controls and line ends stand alone. -/
def Kind.standsAlone (k : Kind) : Bool :=
  k == .carriageReturn || k == .lineFeed || k == .control

/-- Marks and the joiner belong to what is before them. -/
def Kind.joinsBack (k : Kind) : Bool := k == .extend || k == .joiner || k == .spacing

/-- A Korean syllable goes on from `a` to `b`: consonants in front, then vowels, then consonants
behind. -/
def sameSyllable (a b : Kind) : Bool :=
  match a with
  | .leading => b == .leading || b == .vowel || b == .openSyllable || b == .closedSyllable
  | .openSyllable | .vowel => b == .vowel || b == .trailing
  | .closedSyllable | .trailing => b == .trailing
  | _ => false

/-- The characters, of which the last comes first, end with a consonant and the marks behind it, one
of which is a linker. -/
def endsLinked (before : List Char) : Bool :=
  (before.takeWhile isBetween).any isLinker &&
    (before.dropWhile isBetween).head?.any (kind · == .consonant)

/-- The characters, of which the last comes first, end with a picture, the marks behind it and a
joiner. -/
def endsJoined : List Char → Bool
  | [] => false
  | c :: before =>
    kind c == .joiner &&
      (before.dropWhile (kind · == .extend)).head?.any (kind · == .picture)

/-- The characters, of which the last comes first, end with the first letter of a flag. -/
def endsHalfFlag (before : List Char) : Bool :=
  (before.takeWhile (kind · == .regional)).length % 2 == 1

/-- The next character joins the cluster before it, of which the last character comes first. -/
def joins (before : List Char) (next : Char) : Bool :=
  match before with
  | [] => false
  | last :: _ =>
    let a := kind last
    let b := kind next
    if a == .carriageReturn && b == .lineFeed then true
    else if a.standsAlone || b.standsAlone then false
    else
      sameSyllable a b || b.joinsBack || a == .prepend
        || (b == .consonant && endsLinked before)
        || (b == .picture && endsJoined before)
        || (b == .regional && endsHalfFlag before)

/-- The clusters of a text of which the first has begun with the given characters, the last of them
first. -/
def clustersFrom (before : List Char) : List Char → List (List Char)
  | [] => [before.reverse]
  | c :: cs =>
    if joins before c then clustersFrom (c :: before) cs
    else before.reverse :: clustersFrom [c] cs

/-- The clusters of a text. -/
def clusters : List Char → List (List Char)
  | [] => []
  | c :: cs => clustersFrom [c] cs

private theorem flatten_clustersFrom (before cs : List Char) :
    (clustersFrom before cs).flatten = before.reverse ++ cs := by
  induction cs generalizing before with
  | nil => simp [clustersFrom]
  | cons c cs ih =>
    by_cases h : joins before c = true
    · simp [clustersFrom, h, ih]
    · simp [clustersFrom, h, ih]

/-- The clusters of a text are, one after the other, the text. -/
theorem flatten_clusters (cs : List Char) : (clusters cs).flatten = cs := by
  cases cs with
  | nil => rfl
  | cons c cs => simp [clusters, flatten_clustersFrom]

end SelectFind.Text.Cluster
