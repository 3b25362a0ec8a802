import ScenarioCompiler.Schema.Problem
import ScenarioCompiler.Text.LowerCase

namespace ScenarioCompiler.CommandLine

/-- The console for reports, which is not part of the compiler. The report of an invalid request
names the path of its file, and there the console takes what stands in brackets for a mark of style;
`shows` tells whether it can print the report. In all other texts such marks are escaped. -/
class Console where
  shows : (path : String) → List Schema.Problem → Bool

/-! Marks of style: a name in brackets opens a style, and a name behind a slash closes the last one
of that name. A slash alone closes the last style of all. -/

def opensMark : List Char → Bool
  | c :: _ => ('a' ≤ c && c ≤ 'z') || c = '#' || c = '/' || c = '@'
  | [] => false

/-- The marks in a text; a backslash in front of one takes its meaning away. -/
def marks (escaped : Bool) : List Char → List (List Char)
  | [] => []
  | '\\' :: rest => marks (!escaped) rest
  | '[' :: rest =>
    let content := rest.takeWhile fun c => c != '[' && c != ']'
    if !escaped && opensMark content && rest[content.length]? = some ']' then
      content :: marks false rest
    else marks false rest
  | _ :: rest => marks false rest

/-- The name of a style without its parameters. -/
def styleName (cs : List Char) : String :=
  Text.lowerCase (Text.strip (String.ofList (cs.takeWhile (· != '='))))

/-- Whether every style that marks close is open. -/
def closesOpen (opened : List String) : List (List Char) → Bool
  | [] => true
  | ('/' :: name) :: rest =>
    if styleName name = "" then !opened.isEmpty && closesOpen opened.tail rest
    else opened.contains (styleName name) && closesOpen (opened.erase (styleName name)) rest
  | name :: rest => closesOpen (styleName name :: opened) rest

/-- The console that the compiler runs with. The second names of styles, the actions that styles may
carry, and problems that close a bracket of the path are left aside. -/
instance terminal : Console := ⟨fun path _ => closesOpen [] (marks false path.toList)⟩

theorem marks_of_notMem {escaped : Bool} {cs : List Char} (h : '[' ∉ cs) :
    marks escaped cs = [] := by
  fun_induction marks escaped cs with
  | case1 => rfl
  | case2 escaped rest ih => exact ih fun hm => h (List.mem_cons_of_mem _ hm)
  | case3 | case4 => exact absurd List.mem_cons_self h
  | case5 escaped c rest _ _ ih => exact ih fun hm => h (List.mem_cons_of_mem _ hm)

/-- A path without brackets has no marks. -/
theorem shows_of_notMem {path : String} (h : '[' ∉ path.toList) (problems : List Schema.Problem) :
    Console.shows path problems = true := by
  change closesOpen [] (marks false path.toList) = true
  rw [marks_of_notMem h]
  rfl

example : Console.shows "/tmp/[b]a[/b]/request.yaml" [] = true := by decide +kernel

example : Console.shows "/tmp/a[/b]/request.yaml" [] = false := by decide +kernel

end ScenarioCompiler.CommandLine
