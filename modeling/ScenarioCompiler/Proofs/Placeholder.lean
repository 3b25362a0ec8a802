import ScenarioCompiler.Proofs.Pipeline.Compile
import ScenarioCompiler.Proofs.Text.LowerCase
import ScenarioCompiler.Proofs.Text.Replacement

namespace ScenarioCompiler.Placeholder

/-- A token that may stand anywhere in a value. -/
inductive Token where
  | workspaceFile
  | connectionString
  deriving DecidableEq, Repr

namespace Token

/-- The word between the two `%` of a token. -/
def word : Token → String
  | workspaceFile => "WORKSPACE_FILE"
  | connectionString => "STORAGE_CONNECTION_STRING"

def text : Token → String
  | workspaceFile => workspaceFileToken
  | connectionString => connectionStringToken

/-- What a token stands for inside a value: the folder of the workspace, or the connection string
as it is configured. -/
def meaning (settings : PlatformSettings) (organizationId workspaceId : String) : Token → String
  | workspaceFile => Text.lowerCase (organizationId ++ "/" ++ workspaceId)
  | connectionString =>
    match settings.azure with
    | some azure => azure.storage.connectionString
    | none => ""

theorem toList_text (token : Token) : token.text.toList = Text.marked '%' token.word.toList := by
  cases token <;> rfl

theorem notMem_word (token : Token) : '%' ∉ token.word.toList := by
  cases token <;> decide

theorem word_injective {token other : Token} (h : token.word.toList = other.word.toList) :
    token = other := by
  cases token with
  | workspaceFile =>
    cases other with
    | workspaceFile => rfl
    | connectionString => exact absurd h (by decide)
  | connectionString =>
    cases other with
    | workspaceFile => exact absurd h (by decide)
    | connectionString => rfl

end Token

/-- A text without the mark of the tokens which is not the word of the workspace token. -/
structure IsLiteral (s : String) : Prop where
  unmarked : '%' ∉ s.toList
  ne_word : s ≠ "WORKSPACE_FILE"

/-- A literal and further literals, each behind a token, with a text in place of every token. -/
def alternate (f : Token → String) (first : String) : List (Token × String) → String
  | [] => first
  | (token, next) :: rest => first ++ f token ++ alternate f next rest

variable {f : Token → String} {token : Token} {first replacement value : String}
  {rest : List (Token × String)}

theorem toList_alternate_cons (next : String) :
    (alternate f first ((token, next) :: rest)).toList =
      first.toList ++ ((f token).toList ++ (alternate f next rest).toList) := by
  rw [alternate, String.toList_append, String.toList_append, List.append_assoc]

/-- No token begins with the mark that ends another one, unless the literal between two tokens is
its word. -/
theorem not_prefix_alternate {next : String} (hl : '%' ∉ next.toList)
    (hne : next ≠ token.word) :
    ¬ token.word.toList ++ ['%'] <+: (alternate Token.text next rest).toList := by
  intro h
  cases rest with
  | nil => exact hl (h.subset (List.mem_append_right _ (List.mem_singleton_self '%')))
  | cons part rest =>
    rw [toList_alternate_cons, Token.toList_text, Text.marked, List.cons_append] at h
    exact hne (String.toList_inj.1 (Text.eq_of_prefix token.notMem_word hl h).symm)

/-- A pass that replaces one token, given that the texts of the others are passed over. -/
theorem replaced_alternate {p : String → Prop} (hself : f token = token.text)
    (hpass : ∀ other ≠ token, ∀ next rest out, p next →
      Text.Replaced (Text.marked '%' token.word.toList) replacement.toList
        (alternate f next rest).toList out →
      Text.Replaced (Text.marked '%' token.word.toList) replacement.toList
        ((f other).toList ++ (alternate f next rest).toList) ((f other).toList ++ out))
    (hfirst : '%' ∉ first.toList) (hrest : ∀ part ∈ rest, '%' ∉ part.2.toList ∧ p part.2) :
    Text.Replaced (Text.marked '%' token.word.toList) replacement.toList
      (alternate f first rest).toList
      (alternate (Function.update f token replacement) first rest).toList := by
  induction rest generalizing first with
  | nil => simpa [alternate] using Text.Replaced.nil.unmarked hfirst
  | cons part rest ih =>
    obtain ⟨other, next⟩ := part
    obtain ⟨⟨hl, hp⟩, hrest⟩ := List.forall_mem_cons.1 hrest
    have hlater := ih hl hrest
    rw [toList_alternate_cons, toList_alternate_cons]
    -- behind the text in front, which has no mark, the pass is at the text of a token
    refine .unmarked ?_ hfirst
    by_cases h : other = token
    · subst h
      rw [Function.update_self, hself, Token.toList_text]
      exact .hit hlater
    · rw [Function.update_of_ne h]
      exact hpass other h next rest _ hp hlater

theorem replaceToken_of_replaced {out : String}
    (h : Text.Replaced (Text.marked '%' token.word.toList) replacement.toList value.toList
      out.toList) : replaceToken value token.text replacement = out := by
  rw [replaceToken, Token.toList_text, h.replaceAll_eq (List.cons_ne_nil _ _), String.ofList_toList]

theorem replaceToken_workspaceFile (hfirst : IsLiteral first)
    (hrest : ∀ part ∈ rest, IsLiteral part.2) (folder : String) :
    replaceToken (alternate Token.text first rest) Token.workspaceFile.text folder =
      alternate (Function.update Token.text .workspaceFile folder) first rest := by
  have hpass : ∀ other ≠ Token.workspaceFile, ∀ next rest out, IsLiteral next →
      Text.Replaced (Text.marked '%' Token.workspaceFile.word.toList) folder.toList
        (alternate Token.text next rest).toList out →
      Text.Replaced (Text.marked '%' Token.workspaceFile.word.toList) folder.toList
        (other.text.toList ++ (alternate Token.text next rest).toList)
        (other.text.toList ++ out) := by
    intro other hne next rest out hl hlater
    rw [Token.toList_text]
    exact hlater.otherWord Token.workspaceFile.notMem_word other.notMem_word
      (fun h => hne (Token.word_injective h).symm) (not_prefix_alternate hl.unmarked hl.ne_word)
  exact replaceToken_of_replaced (replaced_alternate rfl hpass hfirst.unmarked
    fun part hp => ⟨(hrest part hp).unmarked, hrest part hp⟩)

theorem replaceToken_connectionString {folder : String} (hfolder : '%' ∉ folder.toList)
    (hfirst : '%' ∉ first.toList) (hrest : ∀ part ∈ rest, '%' ∉ part.2.toList)
    (connectionString : String) :
    replaceToken (alternate (Function.update Token.text .workspaceFile folder) first rest)
        Token.connectionString.text connectionString =
      alternate (Function.update (Function.update Token.text .workspaceFile folder)
        .connectionString connectionString) first rest := by
  have hself : Function.update Token.text .workspaceFile folder .connectionString =
      Token.connectionString.text := Function.update_of_ne (by decide) _ _
  have hother : ∀ other ≠ Token.connectionString,
      '%' ∉ (Function.update Token.text .workspaceFile folder other).toList := by
    intro other hne
    cases other with
    | workspaceFile => rwa [Function.update_self]
    | connectionString => exact absurd rfl hne
  exact replaceToken_of_replaced (replaced_alternate (p := fun _ => True) hself
    (fun other hne _ _ _ _ hlater => hlater.unmarked (hother other hne)) hfirst
    fun part hp => ⟨hrest part hp, trivial⟩)

/-! ### Whole values -/

theorem notMem_lowerCase {s : String} (h : '%' ∉ s.toList) :
    '%' ∉ (Text.lowerCase s).toList := by
  rw [Text.lowerCase, String.toList_ofList]
  exact fun hm => h (Text.mem_of_mem_lowerFrom (by decide) (by decide) hm)

variable {settings : PlatformSettings} {organizationId workspaceId : String} {envBound : Bool}

theorem resolve_of_ne (h : value ≠ workspaceFileToken) :
    resolve settings value organizationId workspaceId envBound =
      replaceToken
        (replaceToken value Token.workspaceFile.text
          (Token.meaning settings organizationId workspaceId .workspaceFile))
        Token.connectionString.text
        (Token.meaning settings organizationId workspaceId .connectionString) := by
  rw [resolve, if_neg h]
  rfl

theorem replaceToken_of_not_contains (h : contains value token.text = false) :
    replaceToken value token.text replacement = value := by
  rw [contains, Token.toList_text] at h
  exact replaceToken_of_replaced (Text.replaced_of_not_occurs h)

/-- The kinds of values that hold no token. -/
def withoutToken : List Placeholder := [.literal, .datasetId, .noneValue]

theorem contains_eq_false (h : classify (some value) ∈ withoutToken) (token : Token) :
    contains value token.text = false := by
  rw [classify, ofText] at h
  split at h
  · rename_i he
    subst he
    cases token <;> rfl
  · split at h
    · rename_i he
      subst he
      cases token <;> rfl
    · split at h
      · exact absurd h (by decide)
      · rename_i hworkspace
        split at h
        · exact absurd h (by decide)
        · rename_i hconnection
          cases token with
          | workspaceFile => exact Bool.eq_false_iff.2 hworkspace
          | connectionString => exact Bool.eq_false_iff.2 hconnection

/-- A value is resolved token by token: in a value of literals and tokens every token gives way to
its meaning, in which no token is looked for, and a value without tokens stays as it is. -/
theorem resolve_tokenwise (settings : PlatformSettings) :
    (∀ organizationId workspaceId first rest envBound, '%' ∉ organizationId.toList →
      '%' ∉ workspaceId.toList → IsLiteral first → (∀ part ∈ rest, IsLiteral part.2) →
      alternate Token.text first rest ≠ workspaceFileToken →
      resolve settings (alternate Token.text first rest) organizationId workspaceId envBound =
        alternate (Token.meaning settings organizationId workspaceId) first rest) ∧
    ∀ value organizationId workspaceId envBound, classify (some value) ∈ withoutToken →
      resolve settings value organizationId workspaceId envBound = value := by
  constructor
  · intro organizationId workspaceId first rest envBound ho hw hfirst hrest hne
    have hfolder : '%' ∉ (Token.meaning settings organizationId workspaceId
        .workspaceFile).toList :=
      notMem_lowerCase (by simp [String.toList_append, ho, hw])
    rw [resolve_of_ne hne, replaceToken_workspaceFile hfirst hrest,
      replaceToken_connectionString hfolder hfirst.unmarked fun part hp => (hrest part hp).unmarked]
    congr 1
    funext token
    cases token <;> rfl
  · intro value organizationId workspaceId envBound h
    have hne : value ≠ workspaceFileToken := by
      rintro rfl
      exact absurd h (by decide)
    rw [resolve_of_ne hne, replaceToken_of_not_contains (contains_eq_false h _),
      replaceToken_of_not_contains (contains_eq_false h _)]

/-- A platform whose connection string is made of tokens. -/
def tokenPlatform : PlatformSettings :=
  { Pipeline.smallPlatform with
    azure := Pipeline.smallPlatform.azure.map fun azure =>
      { azure with
        storage := { connectionString := "%WORKSPACE_FILE%%STORAGE_CONNECTION_STRING%" } } }

theorem tokenPlatform_resolve :
    resolve tokenPlatform "a%STORAGE_CONNECTION_STRING%%WORKSPACE_FILE%b" "O" "W" true =
        "a%WORKSPACE_FILE%%STORAGE_CONNECTION_STRING%o/wb" ∧
      resolve tokenPlatform "100%" "O" "W" false = "100%" := by
  have hvalue : alternate Token.text "a" [(.connectionString, ""), (.workspaceFile, "b")] =
      "a%STORAGE_CONNECTION_STRING%%WORKSPACE_FILE%b" := by decide
  have hmeaning : alternate (Token.meaning tokenPlatform "O" "W") "a"
      [(.connectionString, ""), (.workspaceFile, "b")] =
      "a%WORKSPACE_FILE%%STORAGE_CONNECTION_STRING%o/wb" := by decide
  have hliteral : ∀ s ∈ ["a", "", "b"], IsLiteral s := by
    have hall : ∀ s ∈ ["a", "", "b"], '%' ∉ s.toList ∧ s ≠ "WORKSPACE_FILE" := by decide
    exact fun s hs => ⟨(hall s hs).1, (hall s hs).2⟩
  have htokens := (resolve_tokenwise tokenPlatform).1 "O" "W" "a"
    [(.connectionString, ""), (.workspaceFile, "b")] true (by decide) (by decide)
    (hliteral "a" (by decide)) (by simp [hliteral]) (by decide)
  rw [hvalue, hmeaning] at htokens
  exact ⟨htokens, (resolve_tokenwise tokenPlatform).2 "100%" "O" "W" false (by decide)⟩

end ScenarioCompiler.Placeholder
