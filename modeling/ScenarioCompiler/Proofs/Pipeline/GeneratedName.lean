import ScenarioCompiler.Proofs.Pipeline.Compile
import ScenarioCompiler.Proofs.ResourceName

namespace ScenarioCompiler

/-! ### Characters of ids -/

/-- Letters and digits of ASCII, and the marks between the words of an id. -/
def isIdChar (c : Char) : Bool := c.isAlphanum || ['-', '_', '.', ':', '/'].contains c

/-- Small letters and digits of ASCII, with one of which the name of a resource begins. -/
def isWordChar (c : Char) : Bool := c.isLower || c.isDigit

variable {c : Char} {id : String}

theorem toNat_lt_of_isAlphanum (h : c.isAlphanum = true) : c.toNat < 128 := by
  have hbound {d : Char} (hc : c.val ≤ d.val) (hd : d.toNat < 128) : c.toNat < 128 :=
    Nat.lt_of_le_of_lt (UInt32.le_iff_toNat_le.1 hc) hd
  rcases Bool.or_eq_true_iff.1 h with hletter | hdigit
  · rcases Bool.or_eq_true_iff.1 hletter with hupper | hlower
    · exact hbound (d := 'Z') (of_decide_eq_true hupper).2 (by decide)
    · exact hbound (d := 'z') (of_decide_eq_true (Bool.and_eq_true_iff.1 hlower).2) (by decide)
  · exact hbound (d := '9') (of_decide_eq_true (Bool.and_eq_true_iff.1 hdigit).2) (by decide)

theorem toNat_lt_of_isIdChar (h : isIdChar c = true) : c.toNat < 128 := by
  simp only [isIdChar, Bool.or_eq_true, List.contains_iff_mem] at h
  rcases h with h | h
  · exact toNat_lt_of_isAlphanum h
  · have hall : ∀ d ∈ ['-', '_', '.', ':', '/'], d.toNat < 128 := by simp
    exact hall c h

theorem nameChar_of_isIdChar (h : isIdChar c = true) :
    (isWordChar (nameChar c) = true ∨ nameChar c = '-') ∧
      isWordChar (nameChar c) = c.isAlphanum := by
  have hall : ∀ n < 128, isIdChar (Char.ofNat n) = true →
      (isWordChar (nameChar (Char.ofNat n)) = true ∨ nameChar (Char.ofNat n) = '-') ∧
        isWordChar (nameChar (Char.ofNat n)) = (Char.ofNat n).isAlphanum := by
    decide
  simpa only [Char.ofNat_toNat] using hall c.toNat (toNat_lt_of_isIdChar h) (by simpa using h)

/-! ### Names for the runs of a scenario -/

namespace Pipeline

/-- The name that the runs of a scenario get, before it is cut to length. -/
def fullName (id : String) : String := "workflow-" ++ id ++ "-"

theorem toList_fullName (id : String) :
    (fullName id).toList = "workflow-".toList ++ (id.toList ++ ['-']) := by
  simp [fullName]

theorem isIdChar_of_mem_fullName (h : ∀ c ∈ id.toList, isIdChar c = true) :
    ∀ c ∈ (fullName id).toList, isIdChar c = true := by
  rw [toList_fullName]
  simp only [List.forall_mem_append]
  exact ⟨List.all_eq_true.1 rfl, h, List.all_eq_true.1 rfl⟩

theorem safeNameChars_fullName (h : ∀ c ∈ id.toList, isIdChar c = true) :
    safeNameChars (fullName id).toList =
      "workflow-".toList ++ (id.toList.map nameChar ++ ['-']) := by
  rw [safeNameChars_of_ascii fun c hc => toNat_lt_of_isIdChar (isIdChar_of_mem_fullName h c hc),
    toList_fullName, List.map_append, List.map_append]
  rfl

theorem isWordChar_of_mem_runName (h : ∀ c ∈ id.toList, isIdChar c = true)
    (hc : c ∈ (kubernetesName (fullName id) maxNameLength).toList) :
    isWordChar c = true ∨ c = '-' := by
  have hfull := isIdChar_of_mem_fullName h
  rw [toList_kubernetesName, safeNameChars_of_ascii fun c hc => toNat_lt_of_isIdChar (hfull c hc)]
    at hc
  obtain ⟨d, hd, rfl⟩ := List.mem_map.1 ((Text.takeLast_suffix _ _).subset hc)
  exact (nameChar_of_isIdChar (hfull d hd)).1

/-- The name of a run that has more than 63 characters loses the first ones. -/
theorem head?_runName (h : ∀ c ∈ id.toList, isIdChar c = true) :
    (kubernetesName (fullName id) maxNameLength).toList.head? =
      ("workflow-".toList ++ (id.toList.map nameChar ++ ['-']))[id.length - 53]? := by
  have hlength : ("workflow-".toList ++ (id.toList.map nameChar ++ ['-'])).length =
      id.length + 10 := by
    simp only [List.length_append, List.length_map, String.length_toList, List.length_singleton]
    rw [show "workflow-".length = 9 from rfl]
    omega
  rw [head?_kubernetesName _ (by decide), safeNameChars_fullName h, hlength]
  rfl

/-- A short name begins in the word "workflow", the next longer one with the dash behind it, and all
others in the id. -/
theorem begins_iff (h : ∀ c ∈ id.toList, isIdChar c = true) :
    (∃ c ∈ (kubernetesName (fullName id) maxNameLength).toList.head?, isWordChar c = true) ↔
      id.length ≤ 60 ∨ 62 ≤ id.length ∧
        ∃ c ∈ id.toList[id.length - 62]?, c.isAlphanum = true := by
  rw [head?_runName h]
  rcases Nat.lt_or_ge id.length 62 with hshort | hlong
  · -- The cut is in the word, of which only the dash at its end is no letter.
    have hword : ∀ i < 9, "workflow-".toList[i]?.any isWordChar = true ↔ i ≤ 7 := by decide
    have hi : id.length - 53 < 9 := by omega
    rw [List.getElem?_append_left hi]
    simp only [Option.mem_def, ← Option.any_eq_true, hword _ hi]
    omega
  · -- The cut is in the id, and the dash at the end of the name is far behind it.
    have hi : id.length - 53 - "workflow-".toList.length = id.length - 62 := by
      change id.length - 53 - 9 = _
      omega
    have hlast : id.length - 62 < (id.toList.map nameChar).length := by
      rw [List.length_map, String.length_toList]
      omega
    rw [List.getElem?_append_right (by change 9 ≤ _; omega), hi, List.getElem?_append_left hlast,
      List.getElem?_map]
    simp only [Option.mem_def, Option.map_eq_some_iff]
    constructor
    · rintro ⟨_, ⟨c, hc, rfl⟩, hw⟩
      rw [(nameChar_of_isIdChar (h c (List.mem_of_getElem? hc))).2] at hw
      exact .inr ⟨hlong, c, hc, hw⟩
    · rintro (hshort | ⟨-, c, hc, ha⟩)
      · omega
      · rw [← (nameChar_of_isIdChar (h c (List.mem_of_getElem? hc))).2] at ha
        exact ⟨_, ⟨c, hc, rfl⟩, ha⟩

variable {settings : PlatformSettings} {checker : EventHubChecker} {request : RunRequest}
  {freshId : String} {s : RunStart}

/-- The runs of a scenario get a name of at most 63 small letters, digits and dashes. It begins with
a letter or digit just when a letter of "workflow" is left, or when the id is cut before a letter or
digit. -/
theorem generateName_begins_iff
    (h : (start settings checker request freshId).outcome = .ok s)
    (hid : ∀ c ∈ request.scenario.id.toList, isIdChar c = true) :
    ∃ name, s.generateName = some name ∧ name.length ≤ 63 ∧
      (∀ c ∈ name.toList, isWordChar c = true ∨ c = '-') ∧
      ((∃ c ∈ name.toList.head?, isWordChar c = true) ↔
        request.scenario.id.length ≤ 60 ∨ 62 ≤ request.scenario.id.length ∧
          ∃ c ∈ request.scenario.id.toList[request.scenario.id.length - 62]?,
            c.isAlphanum = true) := by
  obtain ⟨template, compiled, -, -, rfl⟩ := start_eq_ok.1 h
  refine ⟨_, rfl, ?_, fun c hc => ?_, begins_iff hid⟩
  · rw [length_kubernetesName _ (by decide)]
    exact Nat.min_le_left _ _
  · exact isWordChar_of_mem_runName hid hc

/-! ### Long ids -/

/-- A request for a scenario with the given id. -/
def namedRequest (id : String) : RunRequest :=
  { smallRequest none with scenario := { (smallRequest none).scenario with id } }

/-- An id of 64 characters, which is cut before the capital letter. -/
def markedId : String := "S-Run_2024.11/simulations:of-the-whole-supply-chain_in_all_areas"

theorem markedId_begins :
    ∃ s name, (start smallPlatform none (namedRequest markedId) "id").outcome = .ok s ∧
      s.generateName = some name ∧ name.length ≤ 63 ∧
      (∀ c ∈ name.toList, isWordChar c = true ∨ c = '-') ∧
      ∃ c ∈ name.toList.head?, isWordChar c = true := by
  have hlength : (start smallPlatform none (namedRequest markedId) "id").outcome.map
      (·.containers.length) = .ok 7 := by
    decide +kernel
  obtain ⟨s, h, -⟩ := map_eq_ok.1 hlength
  obtain ⟨name, hname, hshort, hchars, hbegins⟩ :=
    generateName_begins_iff h (List.all_eq_true.1 rfl)
  exact ⟨s, name, h, hname, hshort, hchars, hbegins.2 (.inr ⟨by decide, 'R', by decide, by decide⟩)⟩

def longId : String := String.ofList (List.replicate 61 'a')

/-- Of the name for an id with 61 letters just the word "workflow" is cut away. -/
theorem longId_begins_with_dash :
    (∀ c ∈ longId.toList, isIdChar c = true) ∧
      ∃ s name, (start smallPlatform none (namedRequest longId) "id").outcome = .ok s ∧
        s.generateName = some name ∧ ¬ ∃ c ∈ name.toList.head?, isWordChar c = true := by
  have hname : (start smallPlatform none (namedRequest longId) "id").outcome.map
      (·.generateName) = .ok (some ("-" ++ longId ++ "-")) := by
    decide +kernel
  obtain ⟨s, h, hs⟩ := map_eq_ok.1 hname
  refine ⟨List.all_eq_true.1 rfl, s, _, h, hs, ?_⟩
  rintro ⟨c, hc, hw⟩
  cases hc
  cases hw

end Pipeline

end ScenarioCompiler
