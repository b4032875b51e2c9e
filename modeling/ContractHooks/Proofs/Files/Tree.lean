-- What changes of a tree leave as it was. Making folders changes no file, whether it fails or not,
-- and what is written to a path stands at the place that the path leads to afterwards, while every
-- other file stays as it was.
import Mathlib.Data.List.Basic
import ContractHooks.Files.Tree
import ContractHooks.Proofs.Results

namespace ContractHooks.Files

/-! ## Paths -/

theorem segmentsOf_ne_nil (cs : List Char) : segmentsOf cs ≠ [] := by
  unfold segmentsOf
  split
  · simp
  · simp
  · split <;> simp

/-- Only behind a slash, or where there is nothing, is a last segment empty. -/
theorem of_getLast?_segmentsOf {cs : List Char} (h : (segmentsOf cs).getLast? = some []) :
    cs = [] ∨ cs.getLast? = some '/' := by
  induction cs with
  | nil => exact .inl rfl
  | cons c rest ih =>
    right
    -- What stands in front of the last segment does not matter, so that the rest has it as well.
    have hrest (h : (segmentsOf rest).getLast? = some []) (hnil : rest = [] → c = '/') :
        (c :: rest).getLast? = some '/' := by
      rcases ih h with rfl | hlast
      · rw [hnil rfl]
        rfl
      · rw [List.getLast?_cons, hlast, Option.getD_some]
    unfold segmentsOf at h
    split at h
    · contradiction
    · next heq =>
      obtain ⟨rfl, rfl⟩ := List.cons.inj heq
      refine hrest ?_ fun _ => rfl
      rwa [List.getLast?_cons, List.getLast?_eq_some_getLast (segmentsOf_ne_nil rest),
        Option.getD_some, ← List.getLast?_eq_some_getLast] at h
    · next heq =>
      obtain ⟨rfl, rfl⟩ := List.cons.inj heq
      split at h
      · next hs => exact absurd hs (segmentsOf_ne_nil rest)
      · next s ss hs =>
        cases ss with
        | nil => simp at h
        | cons s' ss =>
          refine hrest (by rw [hs]; simpa using h) ?_
          rintro rfl
          simp [segmentsOf] at hs

theorem coreSegments_of_last {path : String} (hne : path ≠ "")
    (hlast : path.toList.getLast? ≠ some '/') : Tree.coreSegments path = segments path := by
  have hsegment : (segments path).getLast? ≠ some "" := by
    intro h
    rw [segments, List.getLast?_map] at h
    obtain ⟨s, hs, hempty⟩ := Option.map_eq_some_iff.1 h
    obtain rfl : s = [] := by simpa using hempty
    rcases of_getLast?_segmentsOf hs with hnil | hslash
    · exact hne (by simpa using hnil)
    · exact hlast hslash
  unfold Tree.coreSegments
  cases hr : (segments path).reverse with
  | nil =>
    rw [List.reverse_eq_nil_iff.1 hr]
    rfl
  | cons s ss =>
    have hs : s ≠ "" := by
      rintro rfl
      rw [← List.head?_reverse, hr] at hsegment
      exact hsegment rfl
    rw [List.dropWhile_cons_of_neg (by simpa using hs), ← hr, List.reverse_reverse]

namespace Tree

/-! ## Walking -/

/-- Segments are walked one part after the other. -/
theorem walk_append (t : Tree) (place a b : List String) :
    t.walk place (a ++ b) = (t.walk place a).bind fun place => t.walk place b := by
  induction a generalizing place with
  | nil => rfl
  | cons s a ih =>
    simp only [List.cons_append, walk]
    split
    · rfl
    split
    · exact ih _
    split
    · exact ih _
    split
    · rfl
    split
    · exact ih _
    · rfl

/-! ## Writing -/

theorem hasFolder_put (t : Tree) (place other : List String) (c : Content) :
    (t.put place c).hasFolder other = t.hasFolder other := rfl

theorem has_put {t : Tree} {other : List String} (h : t.has other = true) (place : List String)
    (c : Content) : (t.put place c).has other = true := by
  unfold has at h ⊢
  rw [hasFolder_put, content?_put]
  split
  · rfl
  · exact h

theorem has_put_self (t : Tree) (place : List String) (c : Content) :
    (t.put place c).has place = true := by
  simp [has, content?_put]

/-- What leads to a place leads there still when a file is written. -/
theorem walk_put {t : Tree} {segs start goal : List String} (h : t.walk start segs = .ok goal)
    (place : List String) (c : Content) : (t.put place c).walk start segs = .ok goal := by
  induction segs generalizing start with
  | nil => exact h
  | cons s segs ih =>
    simp only [walk] at h ⊢
    split at h
    · cases h
    next hf =>
    rw [hasFolder_put, if_neg hf]
    split at h
    · next hs => rw [if_pos hs, ih h]
    next hs =>
    rw [if_neg hs]
    split at h
    · next hs => rw [if_pos hs, ih h]
    next hs =>
    rw [if_neg hs]
    split at h
    · cases h
    next hs =>
    rw [if_neg hs]
    split at h
    · next hs => rw [if_pos (has_put hs _ _), ih h]
    · cases h

theorem findEntry_eq_ok {t : Tree} {path name : String} {place : List String}
    (h : t.findEntry path = .ok (place, name)) :
    checkPath path = .ok () ∧ t.walk [] (coreSegments path).dropLast = .ok place ∧
      t.hasFolder place = true ∧ (coreSegments path).getLast?.getD "" = name ∧
      ¬ nameBound < name.utf8ByteSize := by
  obtain ⟨⟨⟩, hcheck, h⟩ := bind_eq_ok.1 h
  obtain ⟨_, hwalk, h⟩ := bind_eq_ok.1 h
  split at h
  · cases h
  next hfolder =>
  simp only at h
  split at h
  · cases h
  next hlong =>
  cases h
  exact ⟨hcheck, hwalk, by simpa using hfolder, rfl, hlong⟩

theorem segments_eq_concat {path : String} (hcheck : checkPath path = .ok ())
    (hlast : path.toList.getLast? ≠ some '/')
    (hname : isIdle ((coreSegments path).getLast?.getD "") = false) :
    segments path = (coreSegments path).dropLast ++ [(coreSegments path).getLast?.getD ""] := by
  have hne : path ≠ "" := by
    rintro rfl
    cases hcheck
  rw [coreSegments_of_last hne hlast] at hname ⊢
  cases hs : (segments path).getLast? with
  | none =>
    rw [hs] at hname
    cases hname
  | some name => rw [Option.getD_some, List.dropLast_append_getLast? name hs]

/-- What is written to a path stands at the place that the path then leads to. -/
theorem write_eq_put {t u : Tree} {path text : String} (h : t.write path text = .ok u) :
    ∃ place, u = t.put place (.text text) ∧ u.find path = .ok place := by
  obtain ⟨⟨place, name⟩, hentry, h⟩ := bind_eq_ok.1 h
  obtain ⟨hcheck, hwalk, hfolder, hname, hlong⟩ := findEntry_eq_ok hentry
  simp only at h
  split at h
  · cases h
  next hfile =>
  cases h
  obtain ⟨⟨hslash, hidle, hup⟩, -⟩ : (path.toList.getLast? ≠ some '/' ∧ isIdle name = false ∧
      name ≠ "..") ∧ t.hasFolder (place ++ [name]) = false := by
    simpa [namesFolder, not_or, and_assoc] using hfile
  refine ⟨place ++ [name], rfl, ?_⟩
  -- The path is its folder's path and the name, and is walked in these two parts.
  have hput := t.has_put_self (place ++ [name]) (.text text)
  have habove : (t.put (place ++ [name]) (.text text)).walk [] (coreSegments path).dropLast =
      .ok place := walk_put hwalk _ _
  subst hname
  rw [find, hcheck, segments_eq_concat hcheck hslash hidle, walk_append, habove]
  simp [walk, hasFolder_put, hfolder, hidle, hup, hlong, hput, bind, Except.bind]

/-! ## Folders -/

theorem files_of_makeFolder {t u : Tree} {path : String} (h : t.makeFolder path = .ok u) :
    u.files = t.files := by
  obtain ⟨⟨place, name⟩, -, h⟩ := bind_eq_ok.1 h
  simp only at h
  split at h
  · cases h
  · cases h
    rfl

theorem files_step {t : Tree} {change : Tree → Except FileFault Tree}
    (h : ∀ u, change t = .ok u → u.files = t.files) : (t.step change).tree.files = t.files := by
  unfold step
  split
  · next u hu => exact h u hu
  · rfl

theorem files_followedBy {files : List (List String × Content)} {a : Attempt}
    {more : Tree → Attempt} (ha : a.tree.files = files)
    (hmore : ∀ t : Tree, (more t).tree.files = t.files) :
    (a.followedBy more).tree.files = files := by
  unfold Attempt.followedBy
  split
  · rw [hmore, ha]
  · exact ha

theorem files_provideFolder (t : Tree) (path : String) :
    (t.provideFolder path).tree.files = t.files := by
  unfold provideFolder
  dsimp only
  split
  · rfl
  · exact files_step fun _ => files_of_makeFolder

theorem files_provideFoldersFrom (bound : Nat) (t : Tree) (path : String) :
    (provideFoldersFrom bound t path).tree.files = t.files := by
  induction bound generalizing path with
  | zero => rfl
  | succ bound ih =>
    unfold provideFoldersFrom
    split
    · rfl
    split
    · split
      · rfl
      · exact files_followedBy (ih _) fun t => files_provideFolder t path
    · exact files_provideFolder t path

/-- Making folders changes no file, however far it comes. -/
theorem files_provideFolders (t : Tree) (path : String) :
    (t.provideFolders path).tree.files = t.files :=
  files_provideFoldersFrom _ t path

theorem content?_of_files {t u : Tree} (h : u.files = t.files) (place : List String) :
    u.content? place = t.content? place := by
  rw [content?, h, content?]

end Tree

end ContractHooks.Files
