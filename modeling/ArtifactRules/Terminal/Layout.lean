import ArtifactRules.Report
import ArtifactRules.Terminal.Span

/-! The layout of reports and failures on a terminal. -/

namespace ArtifactRules
namespace Terminal

/-- Ideographs are two columns wide. -/
def width (cs : List Char) : Nat :=
  cs.length + cs.countP Cell.isIdeograph

/-- At least `columns` wide. -/
def padEnd (columns : Nat) (s : String) : String :=
  String.ofList (s.toList ++ List.replicate (columns - width s.toList) ' ')

/-- At least `places` characters. -/
def padStart (places : Nat) (s : String) : String :=
  String.ofList (List.replicate (places - s.length) ' ' ++ s.toList)

def outcomeStyles : Outcome → List Style
  | .keep => [.bold, .green]
  | .discard => [.red]
  | .undetermined => [.yellow]

/-- The longest outcome is eight columns wide. -/
def outcomeColumns : Nat := 8

def ruleLine (rule : Rule) : Line :=
  [⟨"row " ++ padStart 3 (toString rule.row), [.dimmed]⟩, ⟨" " ++ rule.text, []⟩]

def judgedLine (judged : Judged) : Line :=
  let decision := judged.decision
  [⟨padEnd outcomeColumns decision.outcome.label, outcomeStyles decision.outcome⟩,
    ⟨" " ++ judged.artifact.text ++ "  ", []⟩,
    ⟨"(" ++ decision.reason.text ++ ")", [.dimmed]⟩]

def wordListLines (list : WordList) : List Line :=
  [⟨list.title, [.bold]⟩] :: list.words.map fun word => [⟨"  " ++ word, []⟩]

def settingsLines (path : Path) (settings : Settings) : List Line :=
  [⟨path.text, [.dimmed]⟩] ::
    settings.listing.map fun (key, value) => [⟨key, [.bold]⟩, ⟨" = " ++ value, []⟩]

def messageStyle : MessageLevel → Style
  | .info => .dimmed
  | .success => .green
  | .warning => .yellow
  | .error => .red

def messageLine (message : Message) : Line :=
  [⟨message.text, [messageStyle message.level]⟩]

/-- The path of the settings is shown above them. An empty line stands between lists of words. -/
def reportLines (settingsPath : Path) (report : Report) : List Line :=
  report.rules.map ruleLine
    ++ report.judged.map judgedLine
    ++ List.intercalate [[]] (report.vocabulary.map wordListLines)
    ++ (report.settings.elim [] (settingsLines settingsPath))
    ++ report.messages.map messageLine

def ruleErrorLines (error : RuleError) : List Line :=
  let cause := [⟨error.cause, [.red]⟩]
  let hint := [⟨error.hint, [.green]⟩]
  match error.place? with
  | none => [cause, hint]
  | some (row, column) =>
    [[⟨"Row ", []⟩, ⟨toString row, [.blue]⟩, ⟨" of the rule sheet, column ", []⟩,
      ⟨column.label, [.blue]⟩, ⟨", is not valid", []⟩], cause, hint]

/-- An error of the rules has its place and a hint. -/
def failureLines : Failure → List Line
  | .rules error => ruleErrorLines error
  | failure => [[⟨"Error:", [.bold, .red]⟩, ⟨" " ++ failure.message, []⟩]]

end Terminal
end ArtifactRules
