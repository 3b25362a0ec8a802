namespace ScenarioCompiler.Text

/-- Whether `pattern` stands somewhere in the text. -/
def occurs (pattern : List Char) : List Char → Bool
  | [] => pattern.isEmpty
  | c :: rest => pattern.isPrefixOf (c :: rest) || occurs pattern rest

/-- Replaces the matches of a pattern that do not overlap, from the left; `skip` characters of a
match that was just replaced are still to be dropped. -/
def replaceFrom (pattern replacement : List Char) : Nat → List Char → List Char
  | _, [] => []
  | skip + 1, _ :: rest => replaceFrom pattern replacement skip rest
  | 0, c :: rest =>
    if pattern.isPrefixOf (c :: rest) then
      replacement ++ replaceFrom pattern replacement (pattern.length - 1) rest
    else c :: replaceFrom pattern replacement 0 rest

/-- Replaces a pattern that is not empty. -/
def replaceAll (pattern replacement text : List Char) : List Char :=
  replaceFrom pattern replacement 0 text

/-- Puts `c` in front of the first of the pieces. -/
def consFirst (c : Char) : List (List Char) → List (List Char)
  | [] => [[c]]
  | piece :: pieces => (c :: piece) :: pieces

/-- The pieces between the matches of a separator, found as by `replaceFrom`. -/
def splitFrom (separator : List Char) : Nat → List Char → List (List Char)
  | _, [] => [[]]
  | skip + 1, _ :: rest => splitFrom separator skip rest
  | 0, c :: rest =>
    if separator.isPrefixOf (c :: rest) then
      [] :: splitFrom separator (separator.length - 1) rest
    else consFirst c (splitFrom separator 0 rest)

/-- The pieces between the matches of a separator that is not empty. -/
def splitAll (separator text : List Char) : List (List Char) := splitFrom separator 0 text

/-- The last `count` characters, all of them when `count` is 0, and what remains after the first
`-count` when it is negative. -/
def takeLast (count : Int) (cs : List Char) : List Char :=
  if 0 < count then cs.drop (cs.length - count.toNat) else cs.drop (-count).toNat

end ScenarioCompiler.Text
