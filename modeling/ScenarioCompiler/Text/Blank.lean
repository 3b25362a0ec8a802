namespace ScenarioCompiler.Text

/-- White space of every script: the separators of Unicode, the tabulations and line ends of
ASCII and its four information separators. -/
def isBlank (c : Char) : Bool :=
  let n := c.toNat
  (9 ≤ n && n ≤ 13) || (28 ≤ n && n ≤ 32) || n = 0x85 || n = 0xA0 || n = 0x1680 ||
    (0x2000 ≤ n && n ≤ 0x200A) || n = 0x2028 || n = 0x2029 || n = 0x202F || n = 0x205F ||
    n = 0x3000

/-- White space in the narrow sense of the Unicode property, without the information separators. -/
def isUnicodeSpace (c : Char) : Bool := isBlank c && !(28 ≤ c.toNat && c.toNat ≤ 31)

/-- Drops the characters that satisfy `p` from both ends. -/
def trimBoth (p : Char → Bool) (cs : List Char) : List Char :=
  ((cs.dropWhile p).reverse.dropWhile p).reverse

/-- The text without white space at its ends. -/
def strip (s : String) : String := String.ofList (trimBoth isBlank s.toList)

/-- Whether nothing but white space is left of a text. -/
def isBlankText (s : String) : Bool := s.toList.all isBlank

end ScenarioCompiler.Text
