-- Arguments with one more flag, the one for a dry run. Wherever it is put, all that is read besides
-- the flag stays the same: flags alone look at the flags before, and an option that the flag settles
-- is settled later without it.
import ContractHooks.Command.Generate
import ContractHooks.Proofs.Results

namespace ContractHooks.Command

namespace Taken

variable {names : Names} {t s u v : Taken}

/-! ## Steps that leave the flags alone -/

/-- A state of reading with other flags. -/
def withFlags (t : Taken) (flags : List Flag) : Taken := { t with flags }

/-- A step does not look at the flags and does not change them. -/
def KeepsFlags (step : Taken → Except Refusal Taken) : Prop :=
  ∀ (t : Taken) (flags : List Flag), step (t.withFlags flags) = (step t).map (withFlags · flags)

theorem keepsFlags_setOut (value : String) : KeepsFlags (setOut · value) := by
  intro t flags
  by_cases h : t.out.isSome = true <;> simp [setOut, withFlags, h, Except.map]

theorem keepsFlags_settle : KeepsFlags settle := by
  intro t flags
  have hopen : (t.withFlags flags).openOut = t.openOut := rfl
  unfold settle
  rw [hopen]
  split
  · rfl
  · rfl
  · exact keepsFlags_setOut _ t flags

/-- A step behind another one leaves the flags alone if both do. -/
theorem KeepsFlags.bind {first second : Taken → Except Refusal Taken} (hfirst : KeepsFlags first)
    (hsecond : KeepsFlags second) : KeepsFlags fun t => first t >>= second := by
  intro t flags
  simp only [hfirst t flags]
  cases first t with
  | error e => rfl
  | ok t => exact hsecond t flags

theorem keepsFlags_nameOut (value : Option String) : KeepsFlags (nameOut · value) := by
  refine keepsFlags_settle.bind ?_
  cases value with
  | none => exact fun _ _ => rfl
  | some value => exact keepsFlags_setOut value

theorem keepsFlags_setPosition (value : String) : KeepsFlags (setPosition · value) := by
  intro t flags
  have hposition : (t.withFlags flags).position = t.position := rfl
  have hset : KeepsFlags fun t => .ok { t with position := some value } := fun _ _ => rfl
  simp only [setPosition, hposition]
  split
  · rfl
  · exact keepsFlags_settle.bind hset t flags

theorem keepsFlags_addPlain (argument : String) : KeepsFlags (addPlain · argument) := by
  intro t flags
  have hopen : (t.withFlags flags).openOut = t.openOut := rfl
  have hnames : (t.withFlags flags).noMoreNames = t.noMoreNames := rfl
  simp only [addPlain, hopen, hnames]
  split
  · rfl
  · exact keepsFlags_setPosition argument t flags

theorem KeepsFlags.flags_eq {step : Taken → Except Refusal Taken} (h : KeepsFlags step)
    (ht : step t = .ok s) : s.flags = t.flags := by
  have hs := h t t.flags
  rw [show t.withFlags t.flags = t from rfl, ht] at hs
  rw [Except.ok.inj hs]
  rfl

theorem KeepsFlags.flags_subset {step : Taken → Except Refusal Taken} (h : KeepsFlags step)
    (ht : step t = .ok s) : t.flags ⊆ s.flags := by
  rw [h.flags_eq ht]
  exact List.Subset.refl _

/-! ## Flags are never lost -/

/-- A flag is taken when nothing is left open in front of it and it has not been given before. -/
theorem setFlag_eq_ok_iff {f : Flag} :
    t.setFlag f = .ok s ↔ ∃ t', t.settle = .ok t' ∧ f ≠ .help ∧ f ≠ .version ∧ f ∉ t'.flags ∧
      s = { t' with flags := f :: t'.flags } := by
  unfold setFlag
  rw [bind_eq_ok]
  refine exists_congr fun t' => and_congr_right fun _ => ?_
  have hadded (f : Flag) : (if t'.flags.contains f then .error .argumentConflict
      else .ok { t' with flags := f :: t'.flags }) = (.ok s : Except Refusal Taken) ↔
        f ∉ t'.flags ∧ s = { t' with flags := f :: t'.flags } := by
    by_cases hf : f ∈ t'.flags <;> simp [hf, eq_comm]
  cases f with
  | help => simp
  | version => simp
  | verbose => simpa using hadded .verbose
  | typescript => simpa using hadded .typescript
  | javascript => simpa using hadded .javascript
  | dryRun => simpa using hadded .dryRun

theorem flags_setFlag {f : Flag} (h : t.setFlag f = .ok s) : s.flags = f :: t.flags := by
  obtain ⟨t', ht', -, -, -, rfl⟩ := setFlag_eq_ok_iff.1 h
  rw [← keepsFlags_settle.flags_eq ht']

theorem flags_subset_addShort {cs : List Char} (h : addShort names cs t = .ok s) :
    t.flags ⊆ s.flags := by
  induction cs generalizing t with
  | nil =>
    cases h
    exact List.Subset.refl _
  | cons c rest ih =>
    unfold addShort at h
    split at h
    · cases h
    · obtain ⟨t', ht', h⟩ := bind_eq_ok.1 h
      exact fun f hf => ih h (flags_setFlag ht' ▸ List.mem_cons_of_mem _ hf)
    · split at h <;> exact (keepsFlags_nameOut _).flags_subset h

theorem flags_subset_addLong {cs : List Char} (h : t.addLong names cs = .ok s) :
    t.flags ⊆ s.flags := by
  unfold addLong at h
  dsimp only at h
  split at h
  · cases h
  · exact (keepsFlags_nameOut _).flags_subset h
  · split at h
    · cases h
    · exact fun f hf => flags_setFlag h ▸ List.mem_cons_of_mem _ hf

theorem flags_subset_next {argument : String} (h : t.next names argument = .ok s) :
    t.flags ⊆ s.flags := by
  unfold next at h
  split at h
  · exact (keepsFlags_addPlain _).flags_subset h
  split at h
  · cases h
    exact List.Subset.refl _
  · exact flags_subset_addLong h
  · exact (keepsFlags_addPlain _).flags_subset h
  · exact flags_subset_addShort h
  · exact (keepsFlags_addPlain _).flags_subset h

theorem flags_subset_readAll {arguments : List String} (h : t.readAll names arguments = .ok s) :
    t.flags ⊆ s.flags := by
  induction arguments generalizing t with
  | nil => exact keepsFlags_settle.flags_subset h
  | cons a arguments ih =>
    obtain ⟨t', ht', h⟩ := bind_eq_ok.1 h
    exact List.Subset.trans (flags_subset_next ht') (ih h)

/-! ## The flag for a dry run -/

/-- Another state has read the same, and the flag for a dry run besides. -/
def IsDry (t u : Taken) : Prop :=
  ∃ flags, u = t.withFlags flags ∧ ∀ f, f ∈ flags ↔ f = .dryRun ∨ f ∈ t.flags

theorem isDry_added (t : Taken) : t.IsDry { t with flags := .dryRun :: t.flags } :=
  ⟨_, rfl, fun _ => List.mem_cons⟩

/-- What is read with the flag for a dry run is read without it, and the other way round, as long
as the flag is not given again. -/
structure ReadAlike (x y : Except Refusal Taken) : Prop where
  without : ∀ v, y = .ok v → ∃ s, x = .ok s ∧ s.IsDry v
  withFlag : ∀ s, x = .ok s → .dryRun ∉ s.flags → ∃ v, y = .ok v ∧ s.IsDry v

namespace ReadAlike

theorem error (e e' : Refusal) : ReadAlike (.error e) (.error e') where
  without _ h := by cases h
  withFlag _ h := by cases h

theorem ok (htu : t.IsDry u) : ReadAlike (.ok t) (.ok u) where
  without _ h := ⟨t, rfl, Except.ok.inj h ▸ htu⟩
  withFlag _ h _ := ⟨u, rfl, Except.ok.inj h ▸ htu⟩

/-- Stages are alike behind each other, if the second one does not lose the flag. -/
theorem bind {x y : Except Refusal Taken} {f : Taken → Except Refusal Taken} (hxy : ReadAlike x y)
    (hf : ∀ t u, t.IsDry u → ReadAlike (f t) (f u))
    (hkept : ∀ t s, f t = .ok s → t.flags ⊆ s.flags) : ReadAlike (x >>= f) (y >>= f) where
  without v hv := by
    obtain ⟨u, hu, hv⟩ := bind_eq_ok.1 hv
    obtain ⟨t, ht, htu⟩ := hxy.without u hu
    obtain ⟨s, hs, hsv⟩ := (hf t u htu).without v hv
    exact ⟨s, bind_eq_ok.2 ⟨t, ht, hs⟩, hsv⟩
  withFlag s hs hdry := by
    obtain ⟨t, ht, hs⟩ := bind_eq_ok.1 hs
    obtain ⟨u, hu, htu⟩ := hxy.withFlag t ht fun hm => hdry (hkept t s hs hm)
    obtain ⟨v, hv, hsv⟩ := (hf t u htu).withFlag s hs hdry
    exact ⟨v, bind_eq_ok.2 ⟨u, hu, hv⟩, hsv⟩

end ReadAlike

/-- A step that leaves the flags alone is alike with the flag for a dry run and without it. -/
theorem KeepsFlags.alike {step : Taken → Except Refusal Taken} (h : KeepsFlags step)
    (htu : t.IsDry u) : ReadAlike (step t) (step u) := by
  obtain ⟨flags, rfl, hflags⟩ := htu
  rw [h t flags]
  cases hs : step t with
  | error e => exact .error e e
  | ok s => exact .ok ⟨flags, rfl, by rwa [h.flags_eq hs]⟩

theorem setFlag_alike (htu : t.IsDry u) (f : Flag) : ReadAlike (t.setFlag f) (u.setFlag f) := by
  have hsettled := keepsFlags_settle.alike htu
  have hadded {t : Taken} {flags : List Flag} (h : ∀ g, g ∈ flags ↔ g = .dryRun ∨ g ∈ t.flags) :
      IsDry { t with flags := f :: t.flags } { t with flags := f :: flags } := by
    refine ⟨f :: flags, rfl, fun g => ?_⟩
    rw [List.mem_cons, List.mem_cons, h]
    exact or_left_comm
  constructor
  · intro v hv
    obtain ⟨u', hu', hhelp, hversion, hf, rfl⟩ := setFlag_eq_ok_iff.1 hv
    obtain ⟨t', ht', flags, rfl, hflags⟩ := hsettled.without u' hu'
    have hmem : f ∉ t'.flags := fun hm => hf ((hflags f).2 (.inr hm))
    exact ⟨_, setFlag_eq_ok_iff.2 ⟨t', ht', hhelp, hversion, hmem, rfl⟩, hadded hflags⟩
  · intro s hs hdry
    obtain ⟨t', ht', hhelp, hversion, hf, rfl⟩ := setFlag_eq_ok_iff.1 hs
    obtain ⟨hother, hdry⟩ : Flag.dryRun ≠ f ∧ Flag.dryRun ∉ t'.flags := by simpa using hdry
    obtain ⟨u', hu', flags, rfl, hflags⟩ := hsettled.withFlag t' ht' hdry
    have hmem : f ∉ flags := fun hm => ((hflags f).1 hm).elim (fun h => hother h.symm) hf
    exact ⟨_, setFlag_eq_ok_iff.2 ⟨_, hu', hhelp, hversion, hmem, rfl⟩, hadded hflags⟩

theorem addShort_alike (htu : t.IsDry u) (cs : List Char) :
    ReadAlike (addShort names cs t) (addShort names cs u) := by
  induction cs generalizing t u with
  | nil => exact .ok htu
  | cons c rest ih =>
    unfold addShort
    split
    · exact .error _ _
    · exact (setFlag_alike htu _).bind (fun t u htu => ih htu) fun t s => flags_subset_addShort
    · split <;> exact (keepsFlags_nameOut _).alike htu

theorem addLong_alike (htu : t.IsDry u) (cs : List Char) :
    ReadAlike (t.addLong names cs) (u.addLong names cs) := by
  unfold addLong
  dsimp only
  split
  · exact .error _ _
  · exact (keepsFlags_nameOut _).alike htu
  · split
    · exact .error _ _
    · exact setFlag_alike htu _

/-- One argument is read alike with the flag for a dry run and without it. -/
theorem next_alike (htu : t.IsDry u) (argument : String) :
    ReadAlike (t.next names argument) (u.next names argument) := by
  have hnames : u.noMoreNames = t.noMoreNames := by
    obtain ⟨flags, rfl, -⟩ := htu
    rfl
  unfold next
  rw [hnames]
  split
  · exact (keepsFlags_addPlain _).alike htu
  split
  · obtain ⟨flags, rfl, hflags⟩ := htu
    exact .ok ⟨flags, rfl, hflags⟩
  · exact addLong_alike htu _
  · exact (keepsFlags_addPlain _).alike htu
  · exact addShort_alike htu _
  · exact (keepsFlags_addPlain _).alike htu

/-- And so are all of them. -/
theorem readAll_alike (htu : t.IsDry u) (arguments : List String) :
    ReadAlike (t.readAll names arguments) (u.readAll names arguments) := by
  induction arguments generalizing t u with
  | nil => exact keepsFlags_settle.alike htu
  | cons a arguments ih =>
    exact (next_alike htu a).bind (fun t u htu => ih htu) fun t s => flags_subset_readAll

/-! ## Options that are settled early -/

/-- Behind a settled option nothing is left to be settled. -/
theorem settle_eq_ok (h : t.settle = .ok s) :
    s.settle = .ok s ∧ t.openOut ≠ some none ∧ s.openOut = none ∧ s.position = t.position ∧
      s.noMoreNames = t.noMoreNames := by
  unfold settle at h
  split at h
  · next hopen =>
    cases h
    exact ⟨by rw [settle, hopen], by simp [hopen], hopen, rfl, rfl⟩
  · cases h
  · next value hopen =>
    unfold setOut at h
    split at h
    · cases h
    · cases h
      exact ⟨rfl, by simp [hopen], rfl, rfl, rfl⟩

/-- Whether two dashes have been seen does not matter for what is open. -/
theorem settle_noMoreNames (t : Taken) : settle { t with noMoreNames := true } =
    t.settle.map fun s => { s with noMoreNames := true } := by
  unfold settle setOut
  dsimp only
  split
  · rfl
  · rfl
  · split <;> rfl

theorem setFlag_settle (h : t.settle = .ok s) (f : Flag) : t.setFlag f = s.setFlag f := by
  unfold setFlag
  rw [h, (settle_eq_ok h).1]

theorem nameOut_settle (h : t.settle = .ok s) (value : Option String) :
    t.nameOut value = s.nameOut value := by
  unfold nameOut
  rw [h, (settle_eq_ok h).1]

theorem addPlain_settle (h : t.settle = .ok s) (argument : String) :
    t.addPlain argument = s.addPlain argument := by
  obtain ⟨hs, ht, hopen, hposition, -⟩ := settle_eq_ok h
  unfold addPlain setPosition
  rw [if_neg fun hw => ht hw.1, if_neg (by simp [hopen]), hposition, h, hs]

theorem addShort_settle (h : t.settle = .ok s) (c : Char) (rest : List Char) :
    addShort names (c :: rest) t = addShort names (c :: rest) s := by
  unfold addShort
  simp only [setFlag_settle h, nameOut_settle h]

theorem addLong_settle (h : t.settle = .ok s) (cs : List Char) :
    t.addLong names cs = s.addLong names cs := by
  unfold addLong
  simp only [setFlag_settle h, nameOut_settle h]

/-- An argument settles what is open, or it leaves open what was open. -/
theorem next_settle (names : Names) (h : t.settle = .ok s) (argument : String) :
    t.next names argument = s.next names argument ∨ ∃ t' s', t.next names argument = .ok t' ∧
      s.next names argument = .ok s' ∧ t'.settle = .ok s' := by
  unfold next
  rw [(settle_eq_ok h).2.2.2.2, addPlain_settle h]
  split
  · exact .inl rfl
  split
  · exact .inr ⟨_, _, rfl, rfl, by rw [settle_noMoreNames, h]; rfl⟩
  · exact .inl (addLong_settle h _)
  · exact .inl rfl
  · next cs _ _ hne _ =>
    cases cs with
    | nil => contradiction
    | cons c rest => exact .inl (addShort_settle h c rest)
  · exact .inl rfl

/-- What is read in the end does not hang on when an option with its value is settled. -/
theorem readAll_settle (h : t.settle = .ok s) (arguments : List String) :
    t.readAll names arguments = s.readAll names arguments := by
  induction arguments generalizing t s with
  | nil => rw [readAll, readAll, h, (settle_eq_ok h).1]
  | cons a arguments ih =>
    unfold readAll
    rcases next_settle names h a with heq | ⟨t', s', ht, hs, hsettle⟩
    · rw [heq]
    · rw [ht, hs]
      exact ih hsettle

/-! ## One more argument -/

theorem noMoreNames_addPlain (hnames : t.noMoreNames = true) {argument : String}
    (h : t.addPlain argument = .ok s) : s.noMoreNames = true := by
  unfold addPlain setPosition at h
  rw [if_neg (by simp [hnames])] at h
  split at h
  · cases h
  · obtain ⟨t', ht', h⟩ := bind_eq_ok.1 h
    cases h
    exact (settle_eq_ok ht').2.2.2.2.trans hnames

/-- Behind two dashes no flag is read any more. -/
theorem flags_readAll (hnames : t.noMoreNames = true) {arguments : List String}
    (h : t.readAll names arguments = .ok s) : s.flags = t.flags := by
  induction arguments generalizing t with
  | nil => exact keepsFlags_settle.flags_eq h
  | cons a arguments ih =>
    obtain ⟨t', ht', h⟩ := bind_eq_ok.1 h
    have hplain : t.addPlain a = .ok t' := by rwa [next, if_pos hnames] at ht'
    rw [ih (noMoreNames_addPlain hnames hplain) h, (keepsFlags_addPlain a).flags_eq hplain]

theorem next_dryRun (hname : names.long.lookup "dry-run" = some (.flag .dryRun))
    (hnames : t.noMoreNames ≠ true) : t.next names "--dry-run" = t.setFlag .dryRun := by
  rw [next, if_neg hnames]
  simp [addLong, hname]

/-- Arguments with the flag for a dry run somewhere among them are read like the arguments without
it, but for the flag. -/
theorem readAll_insert (hname : names.long.lookup "dry-run" = some (.flag .dryRun))
    {before after : List String} (ht : t.readAll names (before ++ after) = .ok s)
    (hu : t.readAll names (before ++ "--dry-run" :: after) = .ok u)
    (hwet : Flag.dryRun ∉ s.flags) (hdry : Flag.dryRun ∈ u.flags) : s.IsDry u := by
  induction before generalizing t with
  | nil =>
    obtain ⟨u', hu', hu⟩ := bind_eq_ok.1 hu
    by_cases hnames : t.noMoreNames = true
    -- Behind two dashes it is no flag, and then neither request is one for a dry run.
    · have hplain : t.addPlain "--dry-run" = .ok u' := by rwa [next, if_pos hnames] at hu'
      rw [flags_readAll (noMoreNames_addPlain hnames hplain) hu,
        (keepsFlags_addPlain _).flags_eq hplain, ← flags_readAll hnames ht] at hdry
      exact absurd hdry hwet
    · rw [next_dryRun hname hnames] at hu'
      obtain ⟨t', ht', -, -, -, rfl⟩ := setFlag_eq_ok_iff.1 hu'
      obtain ⟨s', hs', hsu⟩ := (readAll_alike t'.isDry_added after).without u hu
      rw [List.nil_append, readAll_settle ht', hs'] at ht
      exact Except.ok.inj ht ▸ hsu
  | cons a before ih =>
    obtain ⟨t', ht', ht⟩ := bind_eq_ok.1 ht
    obtain ⟨u', hu', hu⟩ := bind_eq_ok.1 hu
    obtain rfl : u' = t' := Except.ok.inj (hu'.symm.trans ht')
    exact ih ht hu

end Taken

/-! ## Requests -/

variable {names : Names} {arguments before after : List String} {r wet dry : Request}

/-- The request of a dry run. -/
def Request.asDryRun (r : Request) : Request := { r with dryRun := true }

theorem Request.ofTaken_dryRun {t : Taken} (h : Request.ofTaken t = .ok r) :
    r.dryRun = true ↔ .dryRun ∈ t.flags := by
  unfold Request.ofTaken at h
  dsimp only at h
  split at h
  · cases h
  · cases h
    exact List.contains_iff_mem

theorem Request.ofTaken_dry {t u : Taken} (htu : t.IsDry u) (ht : Request.ofTaken t = .ok r) :
    Request.ofTaken u = .ok r.asDryRun := by
  obtain ⟨flags, rfl, hflags⟩ := htu
  have hcontains (f : Flag) (hf : f ≠ .dryRun) : flags.contains f = t.flags.contains f := by
    simp [hflags, hf]
  have hdry : flags.contains .dryRun = true := by simp [hflags]
  unfold Request.ofTaken Taken.withFlags at *
  dsimp only at *
  rw [hcontains .typescript (by decide), hcontains .javascript (by decide), hdry]
  split at ht
  · cases ht
  next hboth =>
  cases ht
  rw [if_neg hboth]
  rfl

/-- With the flag for a dry run somewhere among the arguments, the request is the same but for the
dry run. -/
theorem Request.ofArguments_insert (hname : names.long.lookup "dry-run" = some (.flag .dryRun))
    (hwet : Request.ofArguments names (before ++ after) = .ok wet)
    (hdry : Request.ofArguments names (before ++ "--dry-run" :: after) = .ok dry)
    (hw : wet.dryRun = false) (hd : dry.dryRun = true) : dry = wet.asDryRun := by
  obtain ⟨t, ht, hwet⟩ := bind_eq_ok.1 hwet
  obtain ⟨u, hu, hdry⟩ := bind_eq_ok.1 hdry
  have hwetFlags : Flag.dryRun ∉ t.flags := by simp [← Request.ofTaken_dryRun hwet, hw]
  have htu : t.IsDry u :=
    Taken.readAll_insert hname ht hu hwetFlags ((Request.ofTaken_dryRun hdry).1 hd)
  rw [Request.ofTaken_dry htu hwet] at hdry
  exact (Except.ok.inj hdry).symm

/-- The flag can be put in front of all arguments that are accepted without it. -/
theorem Request.ofArguments_cons (hname : names.long.lookup "dry-run" = some (.flag .dryRun))
    (h : Request.ofArguments names arguments = .ok wet) (hw : wet.dryRun = false) :
    Request.ofArguments names ("--dry-run" :: arguments) = .ok wet.asDryRun := by
  obtain ⟨t, ht, hwet⟩ := bind_eq_ok.1 h
  have hnext : Taken.nothing.next names "--dry-run" =
      .ok { Taken.nothing with flags := [.dryRun] } := by
    rw [Taken.next_dryRun hname (by decide)]
    rfl
  have hflags : Flag.dryRun ∉ t.flags := by simp [← Request.ofTaken_dryRun hwet, hw]
  obtain ⟨u, hu, htu⟩ :=
    (Taken.readAll_alike Taken.nothing.isDry_added arguments).withFlag t ht hflags
  exact bind_eq_ok.2 ⟨u, bind_eq_ok.2 ⟨_, hnext, hu⟩, Request.ofTaken_dry htu hwet⟩

end ContractHooks.Command
