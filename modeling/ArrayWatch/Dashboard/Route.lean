import ArrayWatch.Text.Percent
import ArrayWatch.Text.Utf8

/-!
# Routes

The resources of the dashboard by their paths. A request target is a path, or a whole address whose
path comes after the authority. The parts of a path stand between slashes; those that name a CMC, an
array or a rank may hold percent escapes, whose bytes have to be UTF-8.
-/

namespace ArrayWatch

/-- A resource of the dashboard. -/
inductive Route where
  | index
  | cmcList
  | cmc (cmc : String)
  | cmcArray (cmc array : String)
  | rankedArray (rank : String)
  | metrics
  deriving DecidableEq, Repr

/-- A part of a path that is no text. -/
structure BadParameter where
  name : String
  deriving DecidableEq, Repr

def BadParameter.message (p : BadParameter) : String :=
  "Invalid URL: Invalid UTF-8 in \x60" ++ p.name ++ "\x60"

namespace Route

/-- Whether a character may stand in the scheme of an address. -/
def isSchemeChar (c : Char) : Bool :=
  c.isAlphanum || c == '+' || c == '-' || c == '.' || c == '~'

/-- What comes after the scheme of a target, where it has one. -/
def afterScheme? (target : List Char) : Option (List Char) :=
  match target.dropWhile isSchemeChar with
  | ':' :: '/' :: '/' :: rest => some rest
  | _ => none

/-- Whether a character ends a path. -/
def endsPath (c : Char) : Bool := c == '?' || c == '#'

/-- What stands before the query and the fragment. -/
def beforeQuery (cs : List Char) : List Char := cs.takeWhile (!endsPath ·)

/-- The path of an address without its scheme: what comes after the authority, and the start page
where nothing does. -/
def pathAfterAuthority (address : List Char) : List Char :=
  match beforeQuery (address.dropWhile fun c => c != '/' && !endsPath c) with
  | [] => ['/']
  | path => path

/-- The path of a request target. -/
def path (target : String) : List Char :=
  match afterScheme? target.toList with
  | some address => pathAfterAuthority address
  | none => beforeQuery target.toList

/-- The parts of a path after its first slash. -/
def parts? (path : List Char) : Option (List String) :=
  match path with
  | '/' :: rest => some ((rest.splitOn '/').map String.ofList)
  | _ => none

/-- The text of a part. -/
def parameter (name part : String) : Except BadParameter String :=
  match Utf8.decode? (Percent.decode (Utf8.encode part.toList)) with
  | some text => .ok (.ofList text)
  | none => .error ⟨name⟩

/-- The resource of a path, by its parts. The last part cannot be left empty. -/
def ofParts? : List String → Option (Except BadParameter Route)
  | [""] => some (.ok .index)
  | ["metrics"] => some (.ok .metrics)
  | ["api", "cmcs"] => some (.ok .cmcList)
  | ["api", "cmcs", server] =>
    if server.isEmpty then none else some (parameter "cmc" server |>.map .cmc)
  | ["api", "arrays", place] =>
    if place.isEmpty then none else some (parameter "rank" place |>.map .rankedArray)
  | ["api", "cmcs", server, "arrays", key] =>
    if key.isEmpty then none
    else some do return .cmcArray (← parameter "cmc" server) (← parameter "array" key)
  | _ => none

/-- The resource of a request target. -/
def ofTarget? (target : String) : Option (Except BadParameter Route) :=
  (parts? (path target)).bind ofParts?

end Route

end ArrayWatch
