-- Cutting text into clusters, the units a reader sees: a letter with its marks, a syllable
-- block, a flag, a pictograph joined to others. The laws say that no character is lost and
-- that ASCII text without a line end falls into its characters. Conjuncts of Indic scripts
-- are left apart: none of their letters has case, so no word is cut or recased differently.
import ContractHooks.Text.ClusterTable
import ContractHooks.Text.LetterCase

namespace ContractHooks.Text

/-! ## When a character attaches -/

/-- The zero width joiner. -/
def joiner : Char := Char.ofNat 0x200D

/-- One half of a flag. -/
def isFlagHalf (c : Char) : Bool := decide (0x1F1E6 ≤ c.toNat) && decide (c.toNat ≤ 0x1F1FF)

/-- A syllable block of two parts, which a trailing consonant may still follow. -/
def isOpenBlock (c : Char) : Bool :=
  decide (0xAC00 ≤ c.toNat) && decide (c.toNat ≤ 0xD7A3) && (c.toNat - 0xAC00) % 28 == 0

/-- A syllable block of three parts. -/
def isClosedBlock (c : Char) : Bool :=
  decide (0xAC00 ≤ c.toNat) && decide (c.toNat ≤ 0xD7A3) && (c.toNat - 0xAC00) % 28 != 0

/-- Whether the next character continues the syllable that the previous one is part of. -/
def continuesSyllable (prev next : Char) : Bool :=
  let vowel := inRanges syllableVowelRanges
  let tail := inRanges syllableTailRanges
  let lead := inRanges syllableLeadRanges
  (lead prev && (lead next || vowel next || isOpenBlock next || isClosedBlock next)) ||
    ((isOpenBlock prev || vowel prev) && (vowel next || tail next)) ||
    ((isClosedBlock prev || tail prev) && tail next)

/-- Whether a pictograph that comes next is joined to the one before it. The characters
before it are given nearest first. -/
def awaitsPictograph : List Char → Bool
  | c :: earlier =>
    c == joiner &&
      (match earlier.dropWhile (inRanges extenderRanges) with
      | base :: _ => inRanges pictographRanges base
      | [] => false)
  | [] => false

/-- Whether the characters before, nearest first, end in a flag half without a partner. -/
def awaitsFlagHalf : List Char → Bool
  | [] => false
  | c :: earlier =>
    isFlagHalf c &&
      (match earlier with
      | d :: _ => !isFlagHalf d
      | [] => true)

/-- Whether `next` belongs to the cluster whose characters are `before`, nearest first. -/
def attaches (before : List Char) (next : Char) : Bool :=
  match before with
  | [] => false
  | prev :: _ =>
    if prev.toNat < 128 ∧ next.toNat < 128 then prev == '\r' && next == '\n'
    else if inRanges controlRanges prev || inRanges controlRanges next then false
    else
      inRanges extenderRanges next || inRanges spacingMarkRanges next || next == joiner ||
        inRanges prependRanges prev || continuesSyllable prev next ||
        (inRanges pictographRanges next && awaitsPictograph before) ||
        (isFlagHalf next && awaitsFlagHalf before)

/-! ## The cut -/

/-- The clusters of the text whose open cluster is `current`, nearest character first. -/
def clustersFrom (current : List Char) : List Char → List (List Char)
  | [] => [current.reverse]
  | c :: cs =>
    if attaches current c then clustersFrom (c :: current) cs
    else current.reverse :: clustersFrom [c] cs

/-- The clusters of a text, in order. -/
def clusters : List Char → List (List Char)
  | [] => []
  | c :: cs => clustersFrom [c] cs

theorem flatten_clustersFrom (current cs : List Char) :
    (clustersFrom current cs).flatten = current.reverse ++ cs := by
  induction cs generalizing current with
  | nil => simp [clustersFrom]
  | cons c cs ih =>
    unfold clustersFrom
    split
    · simp [ih]
    · simp [ih]

theorem flatten_clusters (cs : List Char) : (clusters cs).flatten = cs := by
  cases cs with
  | nil => rfl
  | cons c cs => simp [clusters, flatten_clustersFrom]

theorem clustersFrom_ascii {c : Char} {cs : List Char} (hc : c.toNat < 128) (h : IsAscii cs)
    (hn : '\n' ∉ cs) : clustersFrom [c] cs = (c :: cs).map ([·]) := by
  induction cs generalizing c with
  | nil => rfl
  | cons d cs ih =>
    have hd : d.toNat < 128 := h d List.mem_cons_self
    have hcs : IsAscii cs := fun e he => h e (List.mem_cons_of_mem d he)
    have hdn : d ≠ '\n' := fun e => hn (e ▸ List.mem_cons_self)
    have hat : attaches [c] d = false := by simp [attaches, hc, hd, hdn]
    unfold clustersFrom
    simp [hat, ih hd hcs (fun hm => hn (List.mem_cons_of_mem d hm))]

/-- ASCII text without a line end falls into its characters. -/
theorem clusters_ascii {cs : List Char} (h : IsAscii cs) (hn : '\n' ∉ cs) :
    clusters cs = cs.map ([·]) := by
  cases cs with
  | nil => rfl
  | cons c cs =>
    exact clustersFrom_ascii (h c List.mem_cons_self)
      (fun d hd => h d (List.mem_cons_of_mem c hd)) (fun hm => hn (List.mem_cons_of_mem c hm))

end ContractHooks.Text
