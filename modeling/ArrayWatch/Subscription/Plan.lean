import ArrayWatch.Subscription.Pattern
import ArrayWatch.Text.Blank

/-!
# Subscription plans

The patterns of a plan come from a file with one pattern on a line, and from a list of texts that
are put after them. In a file a number sign starts a comment, and blank lines do not count.
-/

namespace ArrayWatch

/-- A text that is no pattern, and where it stands: the line of a file or the place in a list,
counted from one. -/
structure PlanError where
  line : Nat
  reason : PatternError
  deriving DecidableEq, Repr

def PlanError.message (e : PlanError) : String :=
  "Invalid sensor pattern on line " ++ toString e.line ++ ": " ++ e.reason.message

/-- The patterns to subscribe to, and the number of engines on every host. -/
structure Plan where
  patterns : List Pattern
  enginesPerHost : Nat
  deriving DecidableEq, Repr, Inhabited

/-- The number of engines on a host, unless another is asked for. -/
def defaultEnginesPerHost : Nat := 4

namespace Plan

/-- A plan without patterns. -/
def empty (enginesPerHost : Nat) : Plan := ⟨[], enginesPerHost⟩

/-- What a line says: the text before the first number sign, without blanks at its ends. -/
def lineContent (line : List Char) : List Char :=
  Text.trim (line.takeWhile (· != '#'))

/-- Reads lines, the first of which has the number `line`. -/
def parseLines (line : Nat) : List (List Char) → Except PlanError (List Pattern)
  | [] => .ok []
  | text :: rest =>
    let content := lineContent text
    if content.isEmpty then parseLines (line + 1) rest
    else
      match Pattern.parse (.ofList content) with
      | .error reason => .error ⟨line, reason⟩
      | .ok pattern => (parseLines (line + 1) rest).map (pattern :: ·)

/-- Reads a pattern file. -/
def parse (text : String) (enginesPerHost : Nat) : Except PlanError Plan :=
  (parseLines 1 (text.toList.splitOn '\n')).map (⟨·, enginesPerHost⟩)

/-- Puts patterns at the end, up to the first text that is none. -/
def extendFrom (place : Nat) (plan : Plan) : List String → Plan × Except PlanError Unit
  | [] => (plan, .ok ())
  | text :: rest =>
    match Pattern.parse (.ofList (Text.trim text.toList)) with
    | .error reason => (plan, .error ⟨place, reason⟩)
    | .ok pattern =>
      extendFrom (place + 1) { plan with patterns := plan.patterns ++ [pattern] } rest

/-- Puts the patterns of a list of texts at the end. Those before a text that is none are kept. -/
def extend (plan : Plan) (texts : List String) : Plan × Except PlanError Unit :=
  plan.extendFrom 1 texts

/-- The pattern file that holds the plan. -/
def fileText (plan : Plan) : String :=
  "".intercalate (plan.patterns.map fun pattern => pattern.text ++ "\n")

def toValue (plan : Plan) : Value :=
  .table [("patterns", .list (plan.patterns.map Pattern.toValue)),
    ("engines_per_host", .nat plan.enginesPerHost)]

end Plan

end ArrayWatch
