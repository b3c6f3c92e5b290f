import ArtifactRules.Judging
import ArtifactRules.Settings

/-! Reports: what a command has to say, before it is laid out. -/

namespace ArtifactRules

inductive MessageLevel
  | info | success | warning | error
  deriving DecidableEq, Repr

def MessageLevel.name : MessageLevel → String
  | info => "info"
  | success => "success"
  | warning => "warning"
  | error => "error"

structure Message where
  level : MessageLevel
  text : String
  deriving DecidableEq, Repr

/-- Words of one kind that a sheet accepts. -/
structure WordList where
  title : String
  words : List String
  deriving DecidableEq, Repr

structure Report where
  rules : RuleSet := []
  judged : List Judged := []
  vocabulary : List WordList := []
  settings : Option Settings := none
  messages : List Message := []
  deriving DecidableEq, Repr

namespace Report

def ofMessage (level : MessageLevel) (text : String) : Report :=
  { messages := [⟨level, text⟩] }

/-- On a file of rules. -/
def ofRules (path : Path) (rules : RuleSet) : Report where
  rules
  messages :=
    if rules.isEmpty then
      [⟨.warning, "The sheet has no rules; the built-in heuristic will be used."⟩]
    else [⟨.success, toString rules.length ++ " rules loaded from " ++ path.text⟩]

def count (judged : List Judged) (outcome : Outcome) : Nat :=
  judged.countP fun j => j.decision.outcome == outcome

def summary (judged : List Judged) : String :=
  toString judged.length ++ " items: " ++ toString (count judged .keep) ++ " keep, "
    ++ toString (count judged .discard) ++ " discard, "
    ++ toString (count judged .undetermined) ++ " undetermined"

/-- On artifacts judged by the rules. -/
def ofArtifacts (rules : RuleSet) (artifacts : List Artifact) : Report :=
  let judged := rules.judgeAll artifacts
  let left := count judged .undetermined
  { judged
    messages :=
      (if rules.isEmpty then [⟨.info, "No rules loaded; using the built-in heuristic."⟩] else [])
        ++ [⟨.info, summary judged⟩]
        ++ if 0 < left then
          [⟨.warning, toString left ++ " items matched no rule and were left alone"⟩]
        else [] }

/-- Everything that a sheet may contain. -/
def words : Report where
  vocabulary := [
    ⟨"Columns", Column.labels⟩,
    ⟨"Categories", Labelled.labels Category⟩,
    ⟨"Attributes", Labelled.labels Attribute⟩,
    ⟨"Level and tier comparators", Comparator.writable.map Comparator.symbol⟩,
    ⟨"Primary attribute words", [Words.primary.positive, Words.primary.negative]⟩,
    ⟨"Secondary attribute words", [Words.secondary.positive, Words.secondary.negative]⟩,
    ⟨"Outcomes", Outcome.writable.map Outcome.label⟩]

/-- On one setting. -/
def ofSetting (settings : Settings) (key : String) : Report :=
  match settings.get? key with
  | some value => ofMessage .info value
  | none => ofMessage .error (Settings.SetFault.unknownKey key).message

end Report
end ArtifactRules
