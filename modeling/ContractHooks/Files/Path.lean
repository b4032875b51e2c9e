-- Paths as text: segments between slashes. Empty segments and single dots that do not stand
-- first say nothing, and a path that starts with a slash starts at the root.
namespace ContractHooks.Files

/-- The segments of a text between slashes. -/
def segmentsOf (cs : List Char) : List (List Char) :=
  match cs with
  | [] => [[]]
  | '/' :: rest => [] :: segmentsOf rest
  | c :: rest =>
    match segmentsOf rest with
    | [] => [[c]]
    | s :: ss => (c :: s) :: ss

/-- The segments of a path. -/
def segments (path : String) : List String := (segmentsOf path.toList).map String.ofList

/-- Whether the path starts at the root. -/
def isAbsolute (path : String) : Bool := path.toList.head? == some '/'

/-- Whether a segment that does not stand first says nothing. -/
def isIdle (s : String) : Bool := s == "" || s == "."

/-- The path that segments write, given in reverse. Segments at the end that say nothing are
left out; one that stands first is the root or the start. -/
def ofReversed : List String → String
  | [] => ""
  | [s] => if s == "" then "/" else s
  | s :: rest =>
    if isIdle s then ofReversed rest else String.intercalate "/" (s :: rest).reverse

/-- The path that is left of reversed segments when the last one that says something is taken
away. -/
def parentOfReversed : List String → Option String
  | [] => none
  | [s] => if s == "" then none else some ""
  | s :: rest => if isIdle s then parentOfReversed rest else some (ofReversed rest)

/-- The path of the folder that holds what a path leads to. -/
def parent? (path : String) : Option String := parentOfReversed (segments path).reverse

/-- A path seen from a base folder. -/
def join (base path : String) : String :=
  if isAbsolute path || base.isEmpty then path
  else if base.toList.getLast? == some '/' then base ++ path
  else base ++ "/" ++ path

/-- The last segment that says something, if it is a name. -/
def fileName? (path : String) : Option String :=
  let rec last : List String → Option String
    | [] => none
    | [s] => if isIdle s || s == ".." then none else some s
    | s :: rest => if isIdle s then last rest else if s == ".." then none else some s
  last (segments path).reverse

/-- What follows the last dot of a file's name, if something stands before the dot. -/
def extension? (path : String) : Option String :=
  match fileName? path with
  | none => none
  | some name =>
    let tail := (name.toList.reverse.takeWhile (· ≠ '.')).reverse
    let before := name.length - tail.length
    if before ≤ 1 then none else some (String.ofList tail)

end ContractHooks.Files
