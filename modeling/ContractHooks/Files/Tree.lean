-- A tree of folders and files. A path is walked from the root of the tree: each segment has to
-- stand in a folder that exists, and two dots lead back to the folder before. Reading fails as
-- an operating system would tell it, and writing changes one file. What is done in steps can fail
-- behind some of them, and then leaves a tree in which these are done.
import ContractHooks.Error
import ContractHooks.Files.Path

namespace ContractHooks.Files

/-- What a file holds: text, or bytes that are none. -/
inductive Content
  | text (s : String)
  | binary (bytes : List UInt8)
  deriving Repr, DecidableEq

/-- The files and folders of a tree by their place, the names from the root on. Every place
but the root has its folder in the list too. -/
structure Tree where
  files : List (List String × Content)
  folders : List (List String)
  deriving Repr, DecidableEq

namespace Tree

/-- The content of a file. -/
def content? (t : Tree) (place : List String) : Option Content := t.files.lookup place

/-- Whether there is a folder at a place. -/
def hasFolder (t : Tree) (place : List String) : Bool := place.isEmpty || t.folders.contains place

/-- Whether there is anything at a place. -/
def has (t : Tree) (place : List String) : Bool :=
  (t.content? place).isSome || t.hasFolder place

/-! ## Walking -/

/-- The greatest length of a name in bytes. -/
def nameBound : Nat := 255

/-- The greatest length of a path in bytes. -/
def pathBound : Nat := 4095

/-- Whether a path can be looked up at all. -/
def checkPath (path : String) : Except FileFault Unit :=
  if path.toList.contains (Char.ofNat 0) then .error .zeroInName
  else if path.isEmpty then .error .missing
  else if pathBound < path.utf8ByteSize then .error .nameTooLong
  else .ok ()

/-- Walks segments from a place on. -/
def walk (t : Tree) : List String → List String → Except FileFault (List String)
  | place, [] => .ok place
  | place, s :: rest =>
    if !t.hasFolder place then .error .notFolder
    else if isIdle s then walk t place rest
    else if s == ".." then walk t place.dropLast rest
    else if nameBound < s.utf8ByteSize then .error .nameTooLong
    else if t.has (place ++ [s]) then walk t (place ++ [s]) rest
    else .error .missing

/-- The place that a path leads to. -/
def find (t : Tree) (path : String) : Except FileFault (List String) := do
  checkPath path
  walk t [] (segments path)

/-- The segments of a path without the slashes at its end. -/
def coreSegments (path : String) : List String :=
  ((segments path).reverse.dropWhile (· == "")).reverse

/-- The folder and the name that a path leads to, whether the name is there or not. Slashes at
the end are left out. -/
def findEntry (t : Tree) (path : String) : Except FileFault (List String × String) := do
  checkPath path
  let core := coreSegments path
  let place ← t.walk [] core.dropLast
  if !t.hasFolder place then .error .notFolder
  let name := core.getLast?.getD ""
  if nameBound < name.utf8ByteSize then .error .nameTooLong
  return (place, name)

/-! ## Reading -/

/-- The text of the file that a path leads to. -/
def read (t : Tree) (path : String) : Except FileFault String := do
  let place ← t.find path
  match t.content? place with
  | some (.text s) => return s
  | some (.binary _) => .error .notText
  | none => .error .isFolder

/-- Whether a path leads to a folder. -/
def isFolder (t : Tree) (path : String) : Bool :=
  match t.find path with
  | .ok place => t.hasFolder place
  | .error _ => false

/-! ## Writing -/

/-- The tree with a file's content set. -/
def put (t : Tree) (place : List String) (c : Content) : Tree :=
  { t with files := (place, c) :: t.files.filter fun f => f.1 ≠ place }

/-- Setting the content of a file changes no other file. -/
theorem content?_put (t : Tree) (place other : List String) (c : Content) :
    (t.put place c).content? other = if other = place then some c else t.content? other := by
  have rest : ∀ files : List (List String × Content), other ≠ place →
      (files.filter fun f => f.1 ≠ place).lookup other = files.lookup other := by
    intro files hne
    induction files with
    | nil => rfl
    | cons f fs ih =>
      obtain ⟨p, d⟩ := f
      by_cases hp : p = place
      · have ho : (other == p) = false := by simpa [hp] using hne
        simp [hp, List.lookup_cons, hp ▸ ho] at ih ⊢
        exact ih
      · simp only [ne_eq, hp, not_false_eq_true, decide_true, List.filter_cons_of_pos,
          List.lookup_cons] at ih ⊢
        split <;> simp_all
  simp only [content?, put, List.lookup_cons]
  by_cases ho : other = place
  · simp [ho]
  · have hb : (other == place) = false := by simpa using ho
    simp only [hb, ho, if_false]
    exact rest t.files ho

/-- Whether a name can only be the name of a folder. -/
def namesFolder (name : String) : Bool := isIdle name || name == ".."

/-- The tree with a text written to a file, which is made if it is not there. A path that ends
with a slash can only lead to a folder. -/
def write (t : Tree) (path text : String) : Except FileFault Tree := do
  let (place, name) ← t.findEntry path
  if path.toList.getLast? == some '/' || namesFolder name || t.hasFolder (place ++ [name]) then
    .error .isFolder
  else return t.put (place ++ [name]) (.text text)

/-- The tree with one more folder, in a folder that is there. -/
def makeFolder (t : Tree) (path : String) : Except FileFault Tree := do
  let (place, name) ← t.findEntry path
  if namesFolder name || t.has (place ++ [name]) then .error .occupied
  else return { t with folders := (place ++ [name]) :: t.folders }

/-! ## Steps -/

/-- What becomes of a tree in steps: why they failed, if they did, and the tree that is left. -/
structure Attempt where
  fault? : Option FileFault
  tree : Tree
  deriving Repr, DecidableEq

/-- A single step, which leaves the tree as it was where it fails. -/
def step (t : Tree) (change : Tree → Except FileFault Tree) : Attempt :=
  match change t with
  | .ok t => ⟨none, t⟩
  | .error fault => ⟨some fault, t⟩

/-- More steps, taken where those before did not fail. -/
def Attempt.followedBy (a : Attempt) (more : Tree → Attempt) : Attempt :=
  match a.fault? with
  | none => more a.tree
  | some _ => a

/-- A folder is made unless it is there. -/
def provideFolder (t : Tree) (path : String) : Attempt :=
  let made := t.step fun t => t.makeFolder path
  if made.fault?.isSome && t.isFolder path then ⟨none, t⟩ else made

/-- A folder and all the folders that lead to it are made, given a bound on their number. -/
def provideFoldersFrom : Nat → Tree → String → Attempt
  | 0, t, _ => ⟨some .missing, t⟩
  | bound + 1, t, path =>
    if path.isEmpty then ⟨none, t⟩
    else
      match t.makeFolder path with
      | .error .missing =>
        match parent? path with
        | none => ⟨some .missing, t⟩
        | some above =>
          (provideFoldersFrom bound t above).followedBy fun t => t.provideFolder path
      | _ => t.provideFolder path

/-- A folder and all the folders that lead to it are made. -/
def provideFolders (t : Tree) (path : String) : Attempt :=
  provideFoldersFrom (path.length + 1) t path

end Tree

end ContractHooks.Files
