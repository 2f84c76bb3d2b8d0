import Semblance.Cli.Arguments
import Semblance.Decimal.Fixed
import Semblance.RuleSet

/-!
# Reports

What the commands print, as text for reading, as JSON, or as lines with columns between tabs.
-/

namespace Semblance

namespace Cli

/-- Lines, each with its end. -/
def unlines (lines : List String) : String := String.join (lines.map (· ++ "\n"))

def columns (cells : List String) : String := String.intercalate "\t" cells

def padRight (width : Nat) (s : String) : String :=
  s ++ String.ofList (List.replicate (width - s.length) ' ')

def padLeft (width : Nat) (s : String) : String :=
  String.ofList (List.replicate (width - s.length) ' ') ++ s

/-- A value that was tested, and whether it matched. -/
structure Verdict where
  file : String
  matched : Bool
  deriving DecidableEq, Repr

namespace Verdict

def report (format : Format) (verdicts : List Verdict) : String :=
  let count := (verdicts.filter (·.matched)).length
  match format with
  | .text =>
      unlines <|
        (verdicts.map fun v => v.file ++ ": " ++ if v.matched then "match" else "no match")
        ++ ["", s!"{count} of {verdicts.length} values matched"]
  | .json =>
      unlines [Json.pretty <| .array <| verdicts.map fun v =>
        .object [("file", .string v.file), ("matched", .bool v.matched)]]
  | .tsv =>
      unlines <| columns ["file", "matched"] ::
        verdicts.map fun v => columns [v.file, if v.matched then "true" else "false"]

end Verdict

/-- The paths of a scoring, as they were given. -/
structure ScoredPaths where
  rules : String
  left : String
  right : String

end Cli

namespace Execution

open Cli

def similarityLines (x : Execution) : List String :=
  match x.similarity?, x.confidence? with
  | some similarity, some confidence =>
      let sums := writeFixed 2 x.score ++ " / " ++ writeFixed 2 x.total
      let percentage := writeFixed 1 (similarity * 100.0) ++ "%"
      ["", s!"   Score: {sums} = {percentage}", s!"   Confidence: {confidence.name}"]
  | _, _ => ["", "   Score: no rule could be compared"]

/-- One line for each criterion. The column of the criteria is as wide as the longest has bytes. -/
def detailLines (x : Execution) : List String :=
  let width := (x.details.map (·.1.utf8ByteSize)).max?.getD 0
  let line (criteria : String) : RuleDetail → String
    | .scored achieved possible =>
        let sums := writeFixed 2 achieved ++ " / " ++ writeFixed 2 possible
        s!"     {padRight width criteria}  {sums}"
    | .failed message => s!"     {padRight width criteria}  error: {message}"
  if x.details.isEmpty then []
  else ["", "   Details:"] ++ x.details.map fun d => line d.1 d.2

def errorLines (x : Execution) : List String :=
  if x.errors.isEmpty then []
  else ["", "   Errors:"] ++ x.errors.map fun error => s!"     - {error.message}"

def tsvLine (criteria : String) : RuleDetail → String
  | .scored achieved possible =>
      columns [criteria, writeFixed 4 achieved, writeFixed 4 possible, ""]
  | .failed message => columns [criteria, "", "", message]

def toValue (x : Execution) (paths : ScoredPaths) : Value :=
  .object [
    ("confidence", (x.confidence?.map fun c => Value.string c.name).getD .null),
    ("details", x.detailsValue),
    ("errors", x.errorsValue),
    ("left", .string paths.left),
    ("right", .string paths.right),
    ("rules", .string paths.rules),
    ("score", .float x.score),
    ("similarity", (x.similarity?.map Value.float).getD .null),
    ("total", .float x.total)]

def report (x : Execution) (format : Format) (paths : ScoredPaths) : String :=
  match format with
  | .text =>
      unlines <|
        ["", s!"Scoring: {paths.left} vs {paths.right} ({paths.rules})"]
        ++ x.similarityLines ++ x.detailLines ++ x.errorLines
  | .json => unlines [Json.pretty (x.toValue paths)]
  | .tsv =>
      unlines <|
        columns ["criteria", "achieved", "possible", "error"]
        :: x.details.map (fun d => tsvLine d.1 d.2)
        ++ [tsvLine "total" (.scored x.score x.total)]

end Execution

namespace CompiledRule

open Cli

/-- What is listed of a rule: one line, and its context if more is to be said. -/
def textLines (verbose : Bool) (index : Nat) (rule : CompiledRule) : List String :=
  let place := padLeft 3 (toString index)
  let strength := Notation.plain.write rule.strength
  let scorer := rule.scorer.toText
  s!"  {place}. {rule.criteria} [{rule.category}] strength {strength} scorer {scorer}"
    :: if verbose && !rule.context.isEmpty then [s!"       context: {rule.context}"] else []

def tsvLine (index : Nat) (rule : CompiledRule) : String :=
  columns [toString index, rule.criteria, rule.category, rule.context,
    Notation.plain.write rule.strength, rule.scorer.toText]

def toValue (rule : CompiledRule) : Value :=
  .object [
    ("category", .string rule.category),
    ("context", .string rule.context),
    ("criteria", .string rule.criteria),
    ("scorer", rule.scorer.toValue),
    ("strength", .float rule.strength)]

end CompiledRule

namespace RuleSet

open Cli

def report (set : RuleSet) (format : Format) (verbose : Bool) (path : String) : String :=
  match format with
  | .text =>
      unlines <| s!"{path}: {set.size} rules OK" ::
        (set.rules.mapIdx (CompiledRule.textLines verbose)).flatten
  | .json => unlines [Json.pretty (.array (set.rules.map (·.toValue)))]
  | .tsv =>
      unlines <| columns ["index", "criteria", "category", "context", "strength", "scorer"] ::
        set.rules.mapIdx CompiledRule.tsvLine

end RuleSet

end Semblance
