import ArrayWatch.Inform.Error
import ArrayWatch.Text.Blank
import ArrayWatch.Text.Decimal
import ArrayWatch.Value

/-!
# Input labels

Which antenna feeds which input: groups in parentheses, each with the label and the number of the
input as its first two fields. A group that cannot be read does not hide the others.
-/

namespace ArrayWatch

/-- The label of an input. -/
structure InputLabel where
  label : String
  input : Nat
  deriving DecidableEq, Repr, Inhabited

namespace InputLabel

/-- The channeliser that an input feeds. Only inputs with an even number name one. -/
def host? (l : InputLabel) : Option Nat :=
  if l.input % 2 = 0 then some (l.input / 2) else none

/-- A field without blanks and then without quotes at its ends. -/
def fieldText (field : List Char) : List Char :=
  Text.trimWhile (fun c => c == '\'' || c == '"') (Text.trim field)

/-- Reads what stands between two parentheses. -/
def ofGroup (group : List Char) : Except InformError InputLabel :=
  match (group.splitOn ',').map fieldText with
  | label :: number :: _ =>
    match Decimal.read? Decimal.word64 number with
    | some input =>
      if label.isEmpty then .error (.badLabel (.ofList group)) else .ok ⟨.ofList label, input⟩
    | none => .error (.badLabel (.ofList group))
  | _ => .error (.badLabel (.ofList group))

/-- Splits at the first character `c`: what stands before it and what stands after it. -/
def cut? (c : Char) (cs : List Char) : Option (List Char × List Char) :=
  match cs.dropWhile (· != c) with
  | [] => none
  | _ :: rest => some (cs.takeWhile (· != c), rest)

theorem cut?_length_lt {c : Char} {cs before after : List Char}
    (h : cut? c cs = some (before, after)) : after.length < cs.length := by
  unfold cut? at h
  split at h
  · contradiction
  · rename_i d rest hdrop
    simp only [Option.some.injEq, Prod.mk.injEq] at h
    obtain ⟨_, rfl⟩ := h
    have h1 : (d :: rest).length ≤ cs.length := by
      rw [← hdrop]
      exact (List.dropWhile_sublist _).length_le
    simp only [List.length_cons] at h1
    omega

/-- Reads every group from an opening parenthesis to the next closing one. -/
def ofChars (cs : List Char) : List (Except InformError InputLabel) :=
  match _h : cut? '(' cs with
  | none => []
  | some (_, after) =>
    match _h' : cut? ')' after with
    | none => [.error (.unterminatedLabel (.ofList after))]
    | some (group, rest) => ofGroup group :: ofChars rest
termination_by cs.length
decreasing_by
  have h1 := cut?_length_lt _h
  have h2 := cut?_length_lt _h'
  omega

/-- Reads the labels of all inputs. -/
def ofText (text : String) : List (Except InformError InputLabel) :=
  ofChars text.toList

def toValue (l : InputLabel) : Value :=
  .table [("label", .text l.label), ("input_index", .nat l.input), ("host", .option .nat l.host?)]

end InputLabel

end ArrayWatch
