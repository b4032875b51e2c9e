-- What the command changes. It writes one file, where its arguments say that the module goes, and
-- only when it does not fail; a dry run changes nothing at all and prints what the other run would
-- write. Up to the writing both runs are one.
import ContractHooks.Proofs.Command.Options
import ContractHooks.Proofs.Files.Tree

namespace ContractHooks.Command

variable {r : Request} {read : FileReader} {tree : Files.Tree}

/-! ## The stages before the writing -/

/-- A request is about a project, seen in the dialect that is asked for, and makes its module. -/
def Request.Makes (r : Request) (read : FileReader) (p : Project) (o : Output) : Prop :=
  (Project.load read r.project).map r.adjust = .ok p ∧
    p.generate read (Project.baseOf r.project) = .ok o

/-- An action is decided on where the project can be loaded and its module be made. -/
theorem Request.action_eq_ok {action : Action} :
    r.action read = .ok action ↔ ∃ p o, r.Makes read p o ∧
      action = if r.dryRun = true then .print (o.moduleText ++ "\n")
        else .write (r.outputPath p) o.moduleText := by
  unfold Request.action Request.Makes
  simp only [bind_eq_ok]
  constructor
  · rintro ⟨p, hp, o, ho, h⟩
    refine ⟨r.adjust p, o, ⟨by rw [hp]; rfl, ho⟩, ?_⟩
    split at h
    · next hdry => rw [if_pos hdry, ← Except.ok.inj h]
    · next hdry => rw [if_neg hdry, ← Except.ok.inj h]
  · rintro ⟨p, o, ⟨hp, ho⟩, rfl⟩
    cases hload : Project.load read r.project with
    | error e =>
      rw [hload] at hp
      cases hp
    | ok q =>
      rw [hload] at hp
      obtain rfl : r.adjust q = p := Except.ok.inj hp
      refine ⟨q, rfl, o, ho, ?_⟩
      split <;> rfl

theorem Request.action_eq_error {e : Error} :
    r.action read = .error e ↔ Project.load read r.project = .error e ∨
      ∃ p, Project.load read r.project = .ok p ∧
        (r.adjust p).generate read (Project.baseOf r.project) = .error e := by
  unfold Request.action
  simp only [bind_eq_error]
  refine or_congr_right (exists_congr fun p => and_congr_right fun _ => or_iff_left ?_)
  rintro ⟨o, -, h⟩
  split at h <;> cases h

/-- What fails before the writing fails alike in a dry run. -/
theorem Request.action_asDryRun_eq_error {e : Error} :
    r.asDryRun.action read = .error e ↔ r.action read = .error e := by
  rw [action_eq_error, action_eq_error]
  rfl

theorem Request.makes_asDryRun {p : Project} {o : Output} :
    r.asDryRun.Makes read p o ↔ r.Makes read p o := Iff.rfl

/-! ## Writing a module -/

open Files in
/-- A module is written where its path leads to, and no other file is changed. If that fails, no
file is changed. -/
theorem writeModule_spec (tree : Tree) (path text : String) :
    (∃ fault, (writeModule tree path text).fault? = some fault ∧
      (writeModule tree path text).tree.files = tree.files) ∨
    (writeModule tree path text).fault? = none ∧
      ∃ place, (writeModule tree path text).tree.find path = .ok place ∧
        ∀ other, (writeModule tree path text).tree.content? other =
          if other = place then some (.text text) else tree.content? other := by
  have hfolders : ∃ folders : Tree.Attempt, folders.tree.files = tree.files ∧
      writeModule tree path text =
        folders.followedBy fun t => t.step fun t => t.write path text := by
    unfold writeModule
    cases parent? path with
    | none => exact ⟨_, rfl, rfl⟩
    | some above => exact ⟨_, tree.files_provideFolders above, rfl⟩
  obtain ⟨folders, hfiles, heq⟩ := hfolders
  rw [heq, Tree.Attempt.followedBy]
  cases hfault : folders.fault? with
  | some fault => exact .inl ⟨fault, hfault, hfiles⟩
  | none =>
    unfold Tree.step
    cases hwrite : folders.tree.write path text with
    | error fault => exact .inl ⟨fault, by simp [hwrite], by simpa [hwrite] using hfiles⟩
    | ok after =>
      obtain ⟨place, rfl, hplace⟩ := Tree.write_eq_put hwrite
      refine .inr ⟨by simp [hwrite], place, by simpa [hwrite] using hplace, fun other => ?_⟩
      simp only [hwrite, Tree.content?_put, Tree.content?_of_files hfiles]

/-! ## Outcomes -/

theorem Request.outcome_of_error {e : Error} (h : r.action tree.read = .error e) :
    r.outcome tree = ⟨.error e, tree⟩ := by
  rw [outcome, h]

theorem Request.outcome_of_ok {action : Action} (h : r.action tree.read = .ok action) :
    r.outcome tree = action.perform tree := by
  rw [outcome, h]

/-- How a request ends: before the writing, with an error; with the module printed, in a dry run; or
with what becomes of the writing. -/
theorem Request.outcome_cases (r : Request) (tree : Files.Tree) :
    (∃ e, r.action tree.read = .error e ∧ r.outcome tree = ⟨.error e, tree⟩) ∨
    ∃ p o, r.Makes tree.read p o ∧
      (r.dryRun = true ∧ r.outcome tree = ⟨.ok (o.moduleText ++ "\n"), tree⟩ ∨
        r.dryRun = false ∧
          r.outcome tree = (Action.write (r.outputPath p) o.moduleText).perform tree) := by
  cases haction : r.action tree.read with
  | error e => exact .inl ⟨e, rfl, outcome_of_error haction⟩
  | ok action =>
    obtain ⟨p, o, hmakes, rfl⟩ := action_eq_ok.1 haction
    refine .inr ⟨p, o, hmakes, ?_⟩
    rw [outcome_of_ok haction]
    cases r.dryRun with
    | true => exact .inl ⟨rfl, rfl⟩
    | false => exact .inr ⟨rfl, rfl⟩

/-- Where the writing of a module does not fail, it is found at its path. -/
theorem Action.perform_write_ok {path text stdout : String}
    (h : ((Action.write path text).perform tree).result = .ok stdout) :
    ∃ place, ((Action.write path text).perform tree).tree.find path = .ok place ∧
      ∀ other, ((Action.write path text).perform tree).tree.content? other =
        if other = place then some (.text text) else tree.content? other := by
  unfold Action.perform at h ⊢
  dsimp only at h ⊢
  rcases writeModule_spec tree path text with ⟨fault, hfault, -⟩ | ⟨hfault, hwritten⟩
  · rw [hfault] at h
    cases h
  · rw [hfault]
    exact hwritten

/-- Where it fails, no file is changed. -/
theorem Action.perform_write_error {path text : String} {e : Error}
    (h : ((Action.write path text).perform tree).result = .error e) (place : List String) :
    ((Action.write path text).perform tree).tree.content? place = tree.content? place := by
  unfold Action.perform at h ⊢
  dsimp only at h ⊢
  rcases writeModule_spec tree path text with ⟨fault, hfault, hfiles⟩ | ⟨hfault, -⟩
  · rw [hfault]
    exact Files.Tree.content?_of_files hfiles place
  · rw [hfault] at h
    cases h

/-- A dry run leaves the tree as it is. -/
theorem Request.tree_of_dryRun (hdry : r.dryRun = true) : (r.outcome tree).tree = tree := by
  rcases r.outcome_cases tree with ⟨e, -, h⟩ | ⟨p, o, -, ⟨-, h⟩ | ⟨hwet, -⟩⟩
  · rw [h]
  · rw [h]
  · rw [hwet] at hdry
    cases hdry

/-- A run that is none and that succeeds has written the module of its project. -/
theorem Request.written_of_ok (hwet : r.dryRun = false) {stdout : String}
    (hok : (r.outcome tree).result = .ok stdout) :
    ∃ p o place, r.Makes tree.read p o ∧
      (r.outcome tree).tree.find (r.outputPath p) = .ok place ∧
      ∀ other, (r.outcome tree).tree.content? other =
        if other = place then some (.text o.moduleText) else tree.content? other := by
  rcases r.outcome_cases tree with ⟨e, -, h⟩ | ⟨p, o, hmakes, ⟨hdry, -⟩ | ⟨-, h⟩⟩
  · rw [h] at hok
    cases hok
  · rw [hwet] at hdry
    cases hdry
  · rw [h] at hok ⊢
    obtain ⟨place, hplace, hcontent⟩ := Action.perform_write_ok hok
    exact ⟨p, o, place, hmakes, hplace, hcontent⟩

/-- A run that fails leaves all files as they are. -/
theorem Request.content?_of_error {e : Error} (herror : (r.outcome tree).result = .error e)
    (place : List String) : (r.outcome tree).tree.content? place = tree.content? place := by
  rcases r.outcome_cases tree with ⟨_, -, h⟩ | ⟨p, o, -, ⟨-, h⟩ | ⟨-, h⟩⟩
  · rw [h]
  · rw [h]
  · rw [h] at herror ⊢
    exact Action.perform_write_error herror place

/-! ## Dry runs -/

theorem Request.asDryRun_fails_iff {e : Error} :
    (r.asDryRun.outcome tree).result = .error e ↔ r.action tree.read = .error e := by
  rw [← action_asDryRun_eq_error]
  constructor
  · intro h
    rcases r.asDryRun.outcome_cases tree with ⟨e', haction, hout⟩ | ⟨p, o, -, ⟨-, hout⟩ | ⟨hwet, -⟩⟩
    · rw [hout] at h
      rw [haction, Except.error.inj h]
    · rw [hout] at h
      cases h
    · cases hwet
  · intro h
    rw [outcome_of_error h]

/-- A dry run prints what the other run writes, and one more line break, wherever a module can be
made. -/
theorem Request.asDryRun_prints_iff {stdout : String} (hwet : r.dryRun = false) :
    (r.asDryRun.outcome tree).result = .ok stdout ↔
      ∃ p o, r.Makes tree.read p o ∧ stdout = o.moduleText ++ "\n" ∧
        r.outcome tree = (Action.write (r.outputPath p) o.moduleText).perform tree := by
  constructor
  · intro h
    rcases r.asDryRun.outcome_cases tree with ⟨e, -, hout⟩ | ⟨p, o, hmakes, ⟨-, hout⟩ | ⟨hdry, -⟩⟩
    · rw [hout] at h
      cases h
    · rw [hout] at h
      rw [makes_asDryRun] at hmakes
      refine ⟨p, o, hmakes, (Except.ok.inj h).symm, outcome_of_ok ?_⟩
      exact action_eq_ok.2 ⟨p, o, hmakes, by rw [hwet]; rfl⟩
    · cases hdry
  · rintro ⟨p, o, hmakes, rfl, -⟩
    have haction : r.asDryRun.action tree.read = .ok (.print (o.moduleText ++ "\n")) :=
      action_eq_ok.2 ⟨p, o, makes_asDryRun.2 hmakes, rfl⟩
    rw [outcome_of_ok haction]
    rfl

/-! ## What arguments ask for -/

/-- Arguments ask for a module at a path. The project is loaded from the file that they name and
seen in the dialect that they name. Its module goes where they say, or else where the project says,
or else to a standard place for the dialect, seen from the folder of the project's file. -/
def AskFor (read : FileReader) (arguments : List String) (path : String) (o : Output) : Prop :=
  let options := optionsOf arguments
  let file := (positions arguments).head?.getD "hookgen.toml"
  let base := (Files.parent? file).getD "."
  ∃ loaded : Project, Project.load read file = .ok loaded ∧
    let dialect := dialectGiven options loaded.dialect
    let standard := match dialect with
      | .typescript => "src/generated.ts"
      | .javascript => "src/generated.js"
    Project.generate read base { loaded with dialect } = .ok o ∧
      path = (outGiven options).getD (Files.join base (loaded.out.getD standard))

/-- A request makes the module that its arguments ask for, at the path that they ask for. -/
theorem askFor_iff {arguments : List String}
    (h : Request.ofArguments generateNames arguments = .ok r) {path : String} {o : Output} :
    AskFor read arguments path o ↔ ∃ p, r.Makes read p o ∧ path = r.outputPath p := by
  obtain ⟨hproject, hout, hadjust, -⟩ := Request.ofArguments_given h
  have hstandard (d : Dialect) : (match d with
      | .typescript => "src/generated.ts"
      | .javascript => "src/generated.js") = "src/generated." ++ d.fileExtension := by
    cases d <;> decide
  unfold AskFor Request.Makes Request.outputPath Project.outputPath Project.baseOf
  simp only [hstandard, ← hproject, ← hout]
  constructor
  · rintro ⟨loaded, hload, hgenerate, rfl⟩
    refine ⟨r.adjust loaded, ⟨by rw [hload]; rfl, ?_⟩, ?_⟩
    · rw [hadjust]
      exact hgenerate
    · rw [hadjust]
  · rintro ⟨p, ⟨hp, hgenerate⟩, rfl⟩
    cases hload : Project.load read r.project with
    | error e =>
      rw [hload] at hp
      cases hp
    | ok loaded =>
      rw [hload] at hp
      obtain rfl : r.adjust loaded = p := Except.ok.inj hp
      rw [hadjust] at hgenerate ⊢
      exact ⟨loaded, rfl, hgenerate, rfl⟩

/-! ## The law -/

/-- The command changes nothing but its output, and that only where it does not fail. A dry run
leaves the tree as it is; a run that succeeds has the module that its arguments ask for in the file
that they ask for and every other file as before; and a run that fails has all files as before. With
the flag for a dry run among the same arguments, where it can always be put in front, the command
fails alike up to the writing, and it prints the text that it would write and one more line
break. -/
theorem only_the_output_is_written (tree : Files.Tree) :
    (∀ arguments r, Request.ofArguments generateNames arguments = .ok r →
      ("--dry-run" ∈ optionsOf arguments → (r.outcome tree).tree = tree) ∧
      ("--dry-run" ∉ optionsOf arguments → ∀ stdout, (r.outcome tree).result = .ok stdout →
        ∃ path o place, AskFor tree.read arguments path o ∧
          (r.outcome tree).tree.find path = .ok place ∧
          ∀ other, (r.outcome tree).tree.content? other =
            if other = place then some (.text o.moduleText) else tree.content? other) ∧
      ∀ e, (r.outcome tree).result = .error e →
        ∀ place, (r.outcome tree).tree.content? place = tree.content? place) ∧
    (∀ arguments wet, Request.ofArguments generateNames arguments = .ok wet →
      "--dry-run" ∉ optionsOf arguments →
        ∃ dry, Request.ofArguments generateNames ("--dry-run" :: arguments) = .ok dry) ∧
    ∀ before after wet dry,
      Request.ofArguments generateNames (before ++ after) = .ok wet →
      Request.ofArguments generateNames (before ++ "--dry-run" :: after) = .ok dry →
      "--" ∉ before → "--dry-run" ∉ optionsOf (before ++ after) →
        (∀ e, (dry.outcome tree).result = .error e ↔ wet.action tree.read = .error e) ∧
        (∀ e, wet.action tree.read = .error e → wet.outcome tree = ⟨.error e, tree⟩) ∧
        ∀ stdout, (dry.outcome tree).result = .ok stdout ↔
          ∃ path o, AskFor tree.read (before ++ after) path o ∧ stdout = o.moduleText ++ "\n" ∧
            wet.outcome tree = (Action.write path o.moduleText).perform tree := by
  refine ⟨fun arguments r h => ?_, fun arguments wet h hwet => ?_,
    fun before after wet dry hwet hdry hbefore hfree => ?_⟩
  · obtain ⟨-, -, -, hflag⟩ := Request.ofArguments_given h
    refine ⟨fun hdry => Request.tree_of_dryRun (hflag.2 hdry), fun hwet stdout hok => ?_,
      fun e herror => Request.content?_of_error herror⟩
    obtain ⟨p, o, place, hmakes, hplace, hcontent⟩ :=
      Request.written_of_ok (Bool.eq_false_iff.2 (mt hflag.1 hwet)) hok
    exact ⟨_, o, place, (askFor_iff h).2 ⟨p, hmakes, rfl⟩, hplace, hcontent⟩
  · obtain ⟨-, -, -, hflag⟩ := Request.ofArguments_given h
    exact ⟨_, Request.ofArguments_cons rfl h (Bool.eq_false_iff.2 (mt hflag.1 hwet))⟩
  · have hw : wet.dryRun = false :=
      Bool.eq_false_iff.2 (mt (Request.ofArguments_given hwet).2.2.2.1 hfree)
    have hd : dry.dryRun = true :=
      (Request.ofArguments_given hdry).2.2.2.2 (mem_optionsOf_append hbefore (by decide) after)
    obtain rfl : dry = wet.asDryRun := Request.ofArguments_insert rfl hwet hdry hw hd
    refine ⟨fun e => Request.asDryRun_fails_iff, fun e => Request.outcome_of_error,
      fun stdout => ?_⟩
    rw [Request.asDryRun_prints_iff hw]
    constructor
    · rintro ⟨p, o, hmakes, rfl, hout⟩
      exact ⟨_, o, (askFor_iff hwet).2 ⟨p, hmakes, rfl⟩, rfl, hout⟩
    · rintro ⟨path, o, hask, rfl, hout⟩
      obtain ⟨p, hmakes, rfl⟩ := (askFor_iff hwet).1 hask
      exact ⟨p, o, hmakes, rfl, hout⟩

/-! ### A folder with one contract -/

/-- A project file with one contract. -/
def vaultText : String :=
  "\x7b\"contracts\": [\x7b\"name\": \"Vault\", \"abi\": \"vault.json\"\x7d]\x7d"

/-- An interface with one function. -/
def vaultInterface : String :=
  "[\x7b\"type\": \"function\", \"name\": \"total\", \"stateMutability\": \"view\"\x7d]"

/-- A folder with the project file and the interface that it names. -/
def vaultFolder : Files.Tree where
  files := [(["hookgen.json"], .text vaultText), (["vault.json"], .text vaultInterface)]
  folders := []

/-- The project of the folder, which says neither where its module goes nor in which dialect. -/
def vaultProject : Project :=
  ⟨none, .typescript, {}, [⟨"Vault", "vault.json", none, none, none, none⟩]⟩

theorem load_vaultFolder : Project.load vaultFolder.read "hookgen.json" = .ok vaultProject := by
  decide +kernel

theorem generate_vaultProject :
    (Project.generate vaultFolder.read "" { vaultProject with dialect := .javascript }).map
        (fun o => (o.imports, o.hooks)) =
      .ok ("import \x7b useContract, useContractRead \x7d from 'wagmi'",
        ["useVault", "useVaultRead", "useVaultTotal"]) := by
  decide +kernel

/-- The flag for a dialect decides on the module and on its standard place. -/
theorem askFor_vault {path : String} {o : Output} :
    AskFor vaultFolder.read ["hookgen.json", "--javascript"] path o ↔
      path = "src/generated.js" ∧
        Project.generate vaultFolder.read "" { vaultProject with dialect := .javascript } =
          .ok o := by
  have hfile : (positions ["hookgen.json", "--javascript"]).head?.getD "hookgen.toml" =
      "hookgen.json" := by decide
  have hbase : (Files.parent? "hookgen.json").getD "." = "" := by decide
  have hdialect (d : Dialect) :
      dialectGiven (optionsOf ["hookgen.json", "--javascript"]) d = .javascript := by
    cases d <;> decide
  have hpath : (outGiven (optionsOf ["hookgen.json", "--javascript"])).getD
      (Files.join "" "src/generated.js") = "src/generated.js" := by decide
  unfold AskFor
  simp only [hfile, hbase, hdialect, load_vaultFolder]
  constructor
  · rintro ⟨loaded, hload, hgenerate, rfl⟩
    obtain rfl := Except.ok.inj hload
    exact ⟨hpath, hgenerate⟩
  · rintro ⟨rfl, hgenerate⟩
    exact ⟨vaultProject, rfl, hgenerate, hpath.symm⟩

/-- In the folder, the module of the contract is printed or written in JavaScript, as the arguments
say. Where a project is asked for that is not there, all files stay as they are. -/
theorem the_module_of_a_vault_is_printed_or_written :
    ∃ wet dry lost o,
      Request.ofArguments generateNames ["hookgen.json", "--javascript"] = .ok wet ∧
      Request.ofArguments generateNames ["hookgen.json", "--dry-run", "--javascript"] = .ok dry ∧
      Request.ofArguments generateNames ["lost.json"] = .ok lost ∧
      AskFor vaultFolder.read ["hookgen.json", "--javascript"] "src/generated.js" o ∧
      o.imports = "import \x7b useContract, useContractRead \x7d from 'wagmi'" ∧
      o.hooks = ["useVault", "useVaultRead", "useVaultTotal"] ∧
      (∀ place, (wet.outcome vaultFolder).tree.content? place =
        if place = ["src", "generated.js"] then some (.text o.moduleText)
        else vaultFolder.content? place) ∧
      (dry.outcome vaultFolder).tree = vaultFolder ∧
      (dry.outcome vaultFolder).result = .ok (o.moduleText ++ "\n") ∧
      ∀ place, (lost.outcome vaultFolder).tree.content? place = vaultFolder.content? place := by
  let wet : Request := ⟨"hookgen.json", none, some .javascript, false⟩
  let lost : Request := ⟨"lost.json", none, none, false⟩
  have hwet : Request.ofArguments generateNames (["hookgen.json"] ++ ["--javascript"]) =
      .ok wet := by decide
  have hdry : Request.ofArguments generateNames
      (["hookgen.json"] ++ "--dry-run" :: ["--javascript"]) = .ok wet.asDryRun := by decide
  have hlost : Request.ofArguments generateNames ["lost.json"] = .ok lost := by decide
  have hwritten : (wet.outcome vaultFolder).result = .ok "" := by decide +kernel
  have hplaced : (wet.outcome vaultFolder).tree.find "src/generated.js" =
      .ok ["src", "generated.js"] := by decide +kernel
  have herror : (lost.outcome vaultFolder).result =
      .error (.projectFile "lost.json" .missing) := by decide +kernel
  obtain ⟨hruns, -, hpairs⟩ := only_the_output_is_written vaultFolder
  obtain ⟨path, o, place, hask, hplace, hcontent⟩ := (hruns _ _ hwet).2.1 (by decide) "" hwritten
  obtain ⟨rfl, hgenerate⟩ := askFor_vault.1 hask
  obtain rfl := Except.ok.inj (hplace.symm.trans hplaced)
  have hshown := generate_vaultProject
  rw [hgenerate] at hshown
  obtain ⟨himports, hhooks⟩ := Prod.mk.inj (Except.ok.inj hshown)
  have hprinted : (wet.asDryRun.outcome vaultFolder).result = .ok (o.moduleText ++ "\n") := by
    obtain ⟨hfails, hearly, hprints⟩ := hpairs _ _ _ _ hwet hdry (by decide) (by decide)
    cases hresult : (wet.asDryRun.outcome vaultFolder).result with
    | error e =>
      rw [hearly e ((hfails e).1 hresult)] at hwritten
      cases hwritten
    | ok stdout =>
      obtain ⟨path, o', hask', rfl, -⟩ := (hprints stdout).1 hresult
      rw [Except.ok.inj (hgenerate.symm.trans (askFor_vault.1 hask').2)]
  exact ⟨wet, wet.asDryRun, lost, o, hwet, hdry, hlost, hask, himports, hhooks, hcontent,
    (hruns _ _ hdry).1 (by decide), hprinted, (hruns _ _ hlost).2.2 _ herror⟩

end ContractHooks.Command
