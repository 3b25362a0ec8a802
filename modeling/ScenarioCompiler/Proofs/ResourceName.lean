import ScenarioCompiler.Proofs.Text.LowerCase
import ScenarioCompiler.ResourceName

namespace ScenarioCompiler

namespace Text

variable {count : Int} {cs : List Char}

theorem takeLast_suffix (count : Int) (cs : List Char) : takeLast count cs <:+ cs := by
  unfold takeLast
  split <;> exact List.drop_suffix _ _

theorem length_takeLast (h : 0 < count) :
    (takeLast count cs).length = min count.toNat cs.length := by
  rw [takeLast, if_pos h, List.length_drop]
  omega

theorem takeLast_eq_self (h : 0 < count) (hl : cs.length ≤ count.toNat) :
    takeLast count cs = cs := by
  rw [takeLast, if_pos h, Nat.sub_eq_zero_of_le hl, List.drop_zero]

end Text

variable {c : Char} {cs : List Char} {maxLength : Int}

/-- A character that a name keeps as it is. -/
structure IsKept (c : Char) : Prop where
  lowered : Text.IsLowered c
  safe : isUnsafeInName c = false

theorem isUnsafeInName_iff : isUnsafeInName c = true ↔ c ∈ ['/', ':', '_', '.'] := by
  simp [isUnsafeInName, or_assoc]

/-- The separators are no small letters, so that lower-casing cannot bring them back. -/
theorem isUnsafeInName_of_mem_safeNameChars (h : c ∈ safeNameChars cs) :
    isUnsafeInName c = false := by
  rw [Bool.eq_false_iff]
  intro hc
  have hcode : ∀ d ∈ ['/', ':', '_', '.'], d.toNat < 128 ∧ ¬ (97 ≤ d.toNat ∧ d.toNat ≤ 122) := by
    simp
  obtain ⟨hascii, hletter⟩ := hcode c (isUnsafeInName_iff.1 hc)
  obtain ⟨d, -, hd⟩ := List.mem_map.1 (Text.mem_of_mem_lowerFrom hascii hletter h)
  split at hd
  · rw [← hd] at hc
    exact absurd hc (by decide)
  · rename_i hsafe
    exact hsafe (hd ▸ hc)

theorem isKept_of_mem_safeNameChars (h : c ∈ safeNameChars cs) : IsKept c :=
  ⟨Text.isLowered_of_mem_lowerFrom h, isUnsafeInName_of_mem_safeNameChars h⟩

theorem safeNameChars_eq_self (h : ∀ c ∈ cs, IsKept c) : safeNameChars cs = cs := by
  have hmap : (cs.map fun c => if isUnsafeInName c then '-' else c) = cs := by
    refine (List.map_congr_left fun c hc => ?_).trans (List.map_id _)
    simp [(h c hc).safe]
  rw [safeNameChars, hmap]
  exact Text.lowerFrom_eq_self fun c hc => (h c hc).lowered

/-- What becomes of a character of ASCII. -/
def nameChar (c : Char) : Char := (if isUnsafeInName c then '-' else c).toLower

theorem safeNameChars_of_ascii (h : ∀ c ∈ cs, c.toNat < 128) :
    safeNameChars cs = cs.map nameChar := by
  have hascii : ∀ d ∈ cs.map fun c => if isUnsafeInName c then '-' else c, d.toNat < 128 := by
    rw [List.forall_mem_map]
    intro c hc
    split
    · decide
    · exact h c hc
  rw [safeNameChars, Text.lowerChars, Text.lowerFrom_of_ascii hascii, List.map_map]
  rfl

theorem toList_kubernetesName (name : String) (maxLength : Int) :
    (kubernetesName name maxLength).toList =
      Text.takeLast maxLength (safeNameChars name.toList) :=
  String.toList_ofList

theorem isKept_of_mem_kubernetesName {name : String}
    (h : c ∈ (kubernetesName name maxLength).toList) : IsKept c := by
  rw [toList_kubernetesName] at h
  exact isKept_of_mem_safeNameChars ((Text.takeLast_suffix _ _).subset h)

theorem length_kubernetesName (name : String) (h : 0 < maxLength) :
    (kubernetesName name maxLength).length =
      min maxLength.toNat (safeNameChars name.toList).length := by
  rw [← String.length_toList, toList_kubernetesName, Text.length_takeLast h]

theorem head?_kubernetesName (name : String) (h : 0 < maxLength) :
    (kubernetesName name maxLength).toList.head? =
      (safeNameChars name.toList)[(safeNameChars name.toList).length - maxLength.toNat]? := by
  rw [toList_kubernetesName, Text.takeLast, if_pos h, List.head?_drop]

/-- A name of kept characters that is short enough stays as it is. -/
theorem kubernetesName_eq_self {name : String} (h : 0 < maxLength)
    (hkept : ∀ c ∈ name.toList, IsKept c) (hl : name.length ≤ maxLength.toNat) :
    kubernetesName name maxLength = name := by
  apply String.toList_inj.1
  rw [toList_kubernetesName, safeNameChars_eq_self hkept]
  exact Text.takeLast_eq_self h (by rwa [String.length_toList])

/-- The end of a name without separators and capital letters: as much of it as may be kept, which
stays as it is when a name is made of it once more. -/
structure IsNameEnd (whole : List Char) (maxLength : Int) (name : String) : Prop where
  separators : ∀ c ∈ ['/', ':', '_', '.'], c ∉ name.toList
  lowerCase : Text.lowerCase name = name
  suffix : name.toList <:+ whole
  length : name.length = min maxLength.toNat whole.length
  stable : kubernetesName name maxLength = name

/-- Whatever the text is, and wherever it is cut. -/
theorem kubernetesName_isNameEnd (name : String) (h : 0 < maxLength) :
    IsNameEnd (safeNameChars name.toList) maxLength (kubernetesName name maxLength) where
  separators c hc hm := by
    have hsafe := (isKept_of_mem_kubernetesName hm).safe
    rw [isUnsafeInName_iff.2 hc] at hsafe
    cases hsafe
  lowerCase := by
    apply String.toList_inj.1
    rw [Text.lowerCase, String.toList_ofList]
    exact Text.lowerFrom_eq_self fun c hc => (isKept_of_mem_kubernetesName hc).lowered
  suffix := by
    rw [toList_kubernetesName]
    exact Text.takeLast_suffix _ _
  length := length_kubernetesName name h
  stable := by
    refine kubernetesName_eq_self h (fun c => isKept_of_mem_kubernetesName) ?_
    rw [length_kubernetesName name h]
    exact Nat.min_le_left _ _

/-- The capital dotted letter becomes two characters, of which the cut keeps the second one, and the
sigma before it is the last letter of a word. -/
theorem dottedName_isNameEnd :
    kubernetesName "ΟΔΟΣ:İ/Β" 3 = "\u0307-β" ∧
      IsNameEnd "οδος-i\u0307-β".toList 3 (kubernetesName "ΟΔΟΣ:İ/Β" 3) := by
  have hwhole : safeNameChars "ΟΔΟΣ:İ/Β".toList = "οδος-i\u0307-β".toList := by decide +kernel
  exact ⟨by decide +kernel, hwhole ▸ kubernetesName_isNameEnd "ΟΔΟΣ:İ/Β" (by decide)⟩

end ScenarioCompiler
