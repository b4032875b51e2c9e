-- What accepted arguments ask for, told by the arguments themselves. A flag is asked for where it
-- stands among the options, the output goes where its option says, and the project's file is the
-- one argument that is neither an option nor the value of one.
import ContractHooks.Proofs.Command.Arguments

namespace ContractHooks.Command

/-! ## What arguments say -/

/-- The arguments that can be options: those in front of two dashes. -/
def optionsOf (arguments : List String) : List String := arguments.takeWhile (· ≠ "--")

/-- Whether an argument is no option: it does not start with a dash, or is nothing but one. -/
def isPlain (argument : String) : Bool := argument == "-" || argument.toList.head? != some '-'

/-- The value of the option for the output, where it stands behind its name in one argument. -/
def attachedOut? (argument : String) : Option String :=
  match argument.toList with
  | '-' :: '-' :: 'o' :: 'u' :: 't' :: '=' :: value => some (String.ofList value)
  | '-' :: 'o' :: '=' :: value => some (String.ofList value)
  | '-' :: 'o' :: value => some (String.ofList value)
  | _ => none

/-- The value of the option for the output, if it is among the options. -/
def outGiven : List String → Option String
  | [] => none
  | a :: rest =>
    if a = "--out" ∨ a = "-o" then rest.head? else (attachedOut? a).or (outGiven rest)

/-- The arguments that are neither options nor the value of one. -/
def positions : List String → List String
  | [] => []
  | a :: rest =>
    if a = "--" then rest
    else if a = "--out" ∨ a = "-o" then
      match rest with
      | [] => []
      | _ :: rest => positions rest
    else if isPlain a then a :: positions rest
    else positions rest

/-- The argument that is a flag. -/
def Flag.argument : Flag → String
  | .help => "--help"
  | .version => "--version"
  | .verbose => "--verbose"
  | .typescript => "--typescript"
  | .javascript => "--javascript"
  | .dryRun => "--dry-run"

/-! ### Kinds of arguments -/

theorem argument_injective {f g : Flag} (h : f.argument = g.argument) : f = g := by
  cases f <;> cases g <;> first | rfl | exact absurd h (by decide)

theorem not_isPlain_argument (f : Flag) : isPlain f.argument = false := by
  cases f <;> decide

theorem argument_ne_of_isPlain {a : String} (h : isPlain a = true) (f : Flag) : f.argument ≠ a := by
  rintro rfl
  rw [not_isPlain_argument f] at h
  cases h

theorem attachedOut?_argument (f : Flag) : attachedOut? f.argument = none := by
  cases f <;> decide

/-- What gives the output behind its name starts with a dash. -/
theorem attachedOut?_of_isPlain {a : String} (h : isPlain a = true) : attachedOut? a = none := by
  rcases Bool.or_eq_true_iff.1 h with h | h
  · obtain rfl := beq_iff_eq.1 h
    decide
  · unfold attachedOut?
    split
    · next hcs => simp [hcs] at h
    · next hcs => simp [hcs] at h
    · next hcs => simp [hcs] at h
    · rfl

/-- What is no option does not end them and does not name the output. -/
theorem ne_of_isPlain {a : String} (h : isPlain a = true) :
    a ≠ "--" ∧ ¬ (a = "--out" ∨ a = "-o") := by
  refine ⟨?_, ?_⟩
  · rintro rfl
    exact absurd h (by decide)
  · rintro (rfl | rfl)
    · exact absurd h (by decide)
    · exact absurd h (by decide)

theorem positions_dashes (rest : List String) : positions ("--" :: rest) = rest := by
  rw [positions.eq_def]
  exact if_pos rfl

theorem positions_out {a : String} (h : a = "--out" ∨ a = "-o") (value : String)
    (rest : List String) : positions (a :: value :: rest) = positions rest := by
  rw [positions.eq_def]
  have hne : a ≠ "--" := by rcases h with rfl | rfl <;> decide
  simp [hne, h]

theorem positions_plain {a : String} (h : isPlain a = true) (rest : List String) :
    positions (a :: rest) = a :: positions rest := by
  obtain ⟨hdashes, hout⟩ := ne_of_isPlain h
  rw [positions.eq_def]
  simp [hdashes, hout, h]

theorem positions_other {a : String} (hdashes : a ≠ "--") (hout : ¬ (a = "--out" ∨ a = "-o"))
    (h : isPlain a = false) (rest : List String) : positions (a :: rest) = positions rest := by
  rw [positions.eq_def]
  simp [hdashes, hout, h]

theorem optionsOf_cons {a : String} (h : a ≠ "--") (rest : List String) :
    optionsOf (a :: rest) = a :: optionsOf rest := by
  simp [optionsOf, h]

/-- What stands behind arguments that do not end the options is an option if it does not. -/
theorem mem_optionsOf_append {before : List String} (hbefore : "--" ∉ before) {a : String}
    (ha : a ≠ "--") (after : List String) : a ∈ optionsOf (before ++ a :: after) := by
  have hall : ∀ b ∈ before, decide (b ≠ "--") = true := by
    intro b hb
    rw [decide_eq_true_eq]
    rintro rfl
    exact hbefore hb
  have hoptions : optionsOf (before ++ a :: after) = before ++ optionsOf (a :: after) :=
    List.takeWhile_append_of_pos hall
  rw [hoptions, optionsOf_cons ha]
  exact List.mem_append_right before List.mem_cons_self

/-! ## One argument -/

namespace Taken

variable {t s : Taken}

/-- How an argument is read that is accepted in front of two dashes. -/
inductive Reads (t : Taken) (a : String) : Taken → Prop
  | dashes : a = "--" → Reads t a { t with noMoreNames := true }
  | flag {f : Flag} {s : Taken} : a = f.argument → t.setFlag f = .ok s → Reads t a s
  | out {s : Taken} : a = "--out" ∨ a = "-o" → t.nameOut none = .ok s → Reads t a s
  | attached {value : String} {s : Taken} : a ≠ "-o" → attachedOut? a = some value →
      t.nameOut (some value) = .ok s → Reads t a s
  | plain {s : Taken} : isPlain a = true → t.addPlain a = .ok s → Reads t a s

/-- A text is cut at its first equals sign, if it has one. -/
theorem cut_at_equals (cs : List Char) :
    (cs.takeWhile (· ≠ '=') = cs ∧ cs.drop (cs.takeWhile (· ≠ '=')).length = []) ∨
      ∃ value, cs = cs.takeWhile (· ≠ '=') ++ '=' :: value ∧
        cs.drop (cs.takeWhile (· ≠ '=')).length = '=' :: value := by
  induction cs with
  | nil => exact .inl ⟨rfl, rfl⟩
  | cons c cs ih =>
    by_cases hc : c = '='
    · exact .inr ⟨cs, by simp [hc], by simp [hc]⟩
    · simpa [hc] using ih

theorem mem_of_lookup {α β : Type} [BEq α] [LawfulBEq α] {l : List (α × β)} {a : α} {b : β}
    (h : l.lookup a = some b) : (a, b) ∈ l := by
  obtain ⟨before, after, rfl, -⟩ := List.lookup_eq_some_iff.1 h
  exact List.mem_append_right before List.mem_cons_self

/-- A long name is one that the command knows. -/
theorem long_cases {name : List Char} {n : Name}
    (h : generateNames.long.lookup (String.ofList name) = some n) :
    (name = "out".toList ∧ n = .out) ∨
      ∃ f : Flag, f.argument.toList = '-' :: '-' :: name ∧ n = .flag f := by
  have hname {text : String} (h : String.ofList name = text) : name = text.toList := by
    rw [← h, String.toList_ofList]
  have hmem := mem_of_lookup h
  simp only [generateNames, List.mem_cons, List.not_mem_nil, or_false, Prod.mk.injEq] at hmem
  rcases hmem with ⟨ht, rfl⟩ | ⟨ht, rfl⟩ | ⟨ht, rfl⟩ | ⟨ht, rfl⟩ | ⟨ht, rfl⟩ <;>
    obtain rfl := hname ht
  · exact .inl ⟨rfl, rfl⟩
  · exact .inr ⟨.typescript, rfl, rfl⟩
  · exact .inr ⟨.javascript, rfl, rfl⟩
  · exact .inr ⟨.dryRun, rfl, rfl⟩
  · exact .inr ⟨.help, rfl, rfl⟩

theorem reads_addLong {a : String} {cs : List Char} (ha : a.toList = '-' :: '-' :: cs)
    (h : t.addLong generateNames cs = .ok s) : t.Reads a s := by
  unfold addLong at h
  dsimp only at h
  rcases cut_at_equals cs with ⟨hname, hdrop⟩ | ⟨value, hcs, hdrop⟩
  · rw [hdrop, hname] at h
    dsimp only at h
    split at h
    · cases h
    · next hlookup =>
      rcases long_cases hlookup with ⟨rfl, -⟩ | ⟨f, -, hn⟩
      · obtain rfl : a = "--out" := String.toList_inj.1 ha
        exact .out (.inl rfl) h
      · cases hn
    · next f hlookup =>
      rcases long_cases hlookup with ⟨-, hn⟩ | ⟨g, hg, hn⟩
      · cases hn
      · cases hn
        exact .flag (String.toList_inj.1 (ha.trans hg.symm)) h
  · rw [hdrop] at h
    split at h
    · cases h
    · next hlookup =>
      rcases long_cases hlookup with ⟨hname, -⟩ | ⟨f, -, hn⟩
      · rw [hname] at hcs
        rw [hcs] at ha
        refine .attached ?_ ?_ h
        · rintro rfl
          cases ha
        · unfold attachedOut?
          rw [ha]
          rfl
      · cases hn
    · cases h

theorem reads_addShort {a : String} {c : Char} {cs : List Char} (ha : a.toList = '-' :: c :: cs)
    (h : addShort generateNames (c :: cs) t = .ok s) : t.Reads a s := by
  unfold addShort at h
  split at h
  · cases h
  · next f hlookup =>
    -- The one short flag asks for help, and then nothing is read.
    have hf : f = .help := by
      have hmem := mem_of_lookup hlookup
      simp only [generateNames, List.mem_cons, List.not_mem_nil, or_false, Prod.mk.injEq] at hmem
      rcases hmem with ⟨-, hn⟩ | ⟨-, hn⟩ <;> cases hn
      rfl
    obtain ⟨t', ht', -⟩ := bind_eq_ok.1 h
    obtain ⟨-, -, hhelp, -⟩ := setFlag_eq_ok_iff.1 ht'
    exact absurd hf hhelp
  · next hlookup =>
    have hc : c = 'o' := by
      have hmem := mem_of_lookup hlookup
      simp only [generateNames, List.mem_cons, List.not_mem_nil, or_false, Prod.mk.injEq] at hmem
      rcases hmem with ⟨hc, -⟩ | ⟨-, hn⟩
      · exact hc
      · cases hn
    subst hc
    split at h
    · obtain rfl : a = "-o" := String.toList_inj.1 ha
      exact .out (.inr rfl) h
    · next value =>
      refine .attached ?_ ?_ h
      · rintro rfl
        cases ha
      · unfold attachedOut?
        rw [ha]
        rfl
    · next value hne hequals =>
      refine .attached ?_ ?_ h
      · rintro rfl
        cases ha
        exact hne rfl
      · unfold attachedOut?
        rw [ha]
        split
        · next heq => cases heq
        · next v heq => exact absurd (List.cons.inj (List.cons.inj heq).2).2 (hequals v)
        · next v heq => rw [(List.cons.inj (List.cons.inj heq).2).2]
        · next hother => exact (hother _ rfl).elim

/-- Every argument that is accepted is read in one of these ways. -/
theorem reads_next (hnames : t.noMoreNames = false) {a : String}
    (h : t.next generateNames a = .ok s) : t.Reads a s := by
  unfold next at h
  rw [hnames, if_neg Bool.false_ne_true] at h
  split at h
  · next ha =>
    cases h
    exact .dashes (String.toList_inj.1 ha)
  · next cs _ ha => exact reads_addLong ha h
  · next ha =>
    obtain rfl : a = "-" := String.toList_inj.1 ha
    exact .plain rfl h
  · next cs _ _ hne ha =>
    cases cs with
    | nil => contradiction
    | cons c cs => exact reads_addShort ha h
  · next hdash =>
    refine .plain ?_ h
    cases hcs : a.toList with
    | nil => simp [isPlain, hcs]
    | cons c cs =>
      have hc : c ≠ '-' := by
        rintro rfl
        exact hdash cs hcs
      simp [isPlain, hcs, hc]

/-! ## All arguments -/

/-- Where the arguments are read to an end, the flags, the output and the position are those that
they give besides what has been read before. -/
structure Agrees (t : Taken) (arguments : List String) (s : Taken) : Prop where
  flags : ∀ f, f ∈ s.flags ↔ f ∈ t.flags ∨ f.argument ∈ optionsOf arguments
  out : s.out = t.out.or (outGiven (optionsOf arguments))
  position : s.position = t.position.or (positions arguments).head?

theorem settle_of_openOut (h : t.openOut = none) : t.settle = .ok t := by
  rw [settle, h]

theorem not_settle_of_waiting (h : t.openOut = some none) : t.settle ≠ .ok s := by
  intro hs
  rw [settle, h] at hs
  cases hs

theorem setOut_eq_ok_iff {value : String} :
    t.setOut value = .ok s ↔ t.out = none ∧ s = { t with out := some value, openOut := none } := by
  unfold setOut
  cases t.out <;> simp [eq_comm]

theorem settle_of_addPlain (hopen : t.openOut ≠ some none) {a : String}
    (h : t.addPlain a = .ok s) :
    t.position = none ∧ ∃ t', t.settle = .ok t' ∧ s = { t' with position := some a } := by
  rw [addPlain, if_neg fun hw => hopen hw.1, setPosition] at h
  split at h
  · cases h
  · next hposition =>
    obtain ⟨t', hsettle, h⟩ := bind_eq_ok.1 h
    exact ⟨hposition, t', hsettle, (Except.ok.inj h).symm⟩

/-- Behind two dashes all arguments are positions, and there is only one. -/
theorem readAll_positions (hopen : t.openOut = none) (hnames : t.noMoreNames = true)
    {arguments : List String} (h : t.readAll generateNames arguments = .ok s) :
    s.flags = t.flags ∧ s.out = t.out ∧ s.position = t.position.or arguments.head? := by
  induction arguments generalizing t with
  | nil =>
    obtain rfl := Except.ok.inj ((settle_of_openOut hopen).symm.trans h)
    simp
  | cons a arguments ih =>
    obtain ⟨t', ht', h⟩ := bind_eq_ok.1 h
    rw [next, if_pos hnames] at ht'
    obtain ⟨hposition, u, hu, rfl⟩ := settle_of_addPlain (by simp [hopen]) ht'
    obtain rfl := Except.ok.inj ((settle_of_openOut hopen).symm.trans hu)
    have hrest := ih (t := { t with position := some a }) hopen hnames h
    simpa [hposition] using hrest

/-- An option that waits for its value does not get it behind two dashes. -/
theorem readAll_waiting (hopen : t.openOut = some none) (hnames : t.noMoreNames = true)
    {arguments : List String} : t.readAll generateNames arguments ≠ .ok s := by
  intro h
  cases arguments with
  | nil => exact not_settle_of_waiting hopen h
  | cons a arguments =>
    obtain ⟨t', ht', -⟩ := bind_eq_ok.1 h
    rw [next, if_pos hnames, addPlain, if_neg (by simp [hnames]), setPosition] at ht'
    split at ht'
    · cases ht'
    · obtain ⟨_, hsettle, -⟩ := bind_eq_ok.1 ht'
      exact not_settle_of_waiting hopen hsettle

/-- An option with its value is settled at the latest in the end. -/
theorem settle_of_readAll (hopen : t.openOut ≠ some none) {arguments : List String}
    (h : t.readAll generateNames arguments = .ok s) : ∃ t', t.settle = .ok t' := by
  induction arguments generalizing t with
  | nil => exact ⟨s, h⟩
  | cons a arguments ih =>
    obtain ⟨u, hu, h⟩ := bind_eq_ok.1 h
    by_cases hnames : t.noMoreNames = true
    · rw [next, if_pos hnames] at hu
      obtain ⟨-, t', ht', -⟩ := settle_of_addPlain hopen hu
      exact ⟨t', ht'⟩
    · cases reads_next (Bool.eq_false_iff.2 hnames) hu with
      | dashes _ =>
        obtain ⟨u, hu⟩ := ih (t := { t with noMoreNames := true }) hopen h
        rw [settle_noMoreNames] at hu
        cases hsettle : t.settle with
        | ok t' => exact ⟨t', rfl⟩
        | error e =>
          rw [hsettle] at hu
          cases hu
      | flag _ hf =>
        obtain ⟨t', ht', -⟩ := setFlag_eq_ok_iff.1 hf
        exact ⟨t', ht'⟩
      | out _ hout | attached _ _ hout =>
        obtain ⟨t', ht', -⟩ := bind_eq_ok.1 hout
        exact ⟨t', ht'⟩
      | plain _ hplain =>
        obtain ⟨-, t', ht', -⟩ := settle_of_addPlain hopen hplain
        exact ⟨t', ht'⟩

namespace Agrees

variable {rest : List String}

theorem dashes (hflags : s.flags = t.flags) (hout : s.out = t.out)
    (hposition : s.position = t.position.or rest.head?) : t.Agrees ("--" :: rest) s := by
  refine ⟨?_, ?_, ?_⟩
  · simp [optionsOf, hflags]
  · simp [optionsOf, outGiven, hout]
  · rw [positions_dashes, hposition]

theorem flag {f : Flag} (h : Agrees { t with flags := f :: t.flags } rest s) :
    t.Agrees (f.argument :: rest) s := by
  have hdashes : f.argument ≠ "--" := by cases f <;> decide
  have hout : ¬ (f.argument = "--out" ∨ f.argument = "-o") := by cases f <;> decide
  refine ⟨fun g => ?_, ?_, ?_⟩
  · rw [h.flags, optionsOf_cons hdashes, List.mem_cons, List.mem_cons]
    have hiff : g.argument = f.argument ↔ g = f := ⟨argument_injective, congrArg _⟩
    rw [hiff]
    tauto
  · rw [h.out, optionsOf_cons hdashes, outGiven, if_neg hout, attachedOut?_argument, Option.none_or]
  · rw [h.position, positions_other hdashes hout (not_isPlain_argument f)]

theorem outValue {a value : String} (ha : a = "--out" ∨ a = "-o") (hplain : isPlain value = true)
    (hnone : t.out = none) (h : Agrees { t with out := some value, openOut := none } rest s) :
    t.Agrees (a :: value :: rest) s := by
  have hdashes : a ≠ "--" := by rcases ha with rfl | rfl <;> decide
  have hname (f : Flag) : f.argument ≠ a := by rcases ha with rfl | rfl <;> cases f <;> decide
  have hoptions : optionsOf (a :: value :: rest) = a :: value :: optionsOf rest := by
    rw [optionsOf_cons hdashes, optionsOf_cons (ne_of_isPlain hplain).1]
  refine ⟨fun f => ?_, ?_, ?_⟩
  · rw [h.flags, hoptions, List.mem_cons, List.mem_cons, or_iff_right (hname f),
      or_iff_right (argument_ne_of_isPlain hplain f)]
  · rw [h.out, hoptions, hnone, outGiven, if_pos ha, List.head?_cons]
    rfl
  · rw [h.position, positions_out ha]

theorem attached {a value : String} (ha : attachedOut? a = some value) (hne : a ≠ "-o")
    (hnone : t.out = none) (h : Agrees { t with out := some value, openOut := none } rest s) :
    t.Agrees (a :: rest) s := by
  have hnot {b : String} (hb : attachedOut? b = none) : a ≠ b := by
    rintro rfl
    rw [hb] at ha
    cases ha
  have hdashes : a ≠ "--" := hnot (by decide)
  have hout : ¬ (a = "--out" ∨ a = "-o") := not_or.2 ⟨hnot (by decide), hne⟩
  have hplain : isPlain a = false := by
    rw [Bool.eq_false_iff]
    intro hplain
    exact hnot (attachedOut?_of_isPlain hplain) rfl
  refine ⟨fun f => ?_, ?_, ?_⟩
  · rw [h.flags, optionsOf_cons hdashes, List.mem_cons,
      or_iff_right (hnot (attachedOut?_argument f)).symm]
  · rw [h.out, optionsOf_cons hdashes, hnone, outGiven, if_neg hout, ha]
    rfl
  · rw [h.position, positions_other hdashes hout hplain]

theorem plain {a : String} (ha : isPlain a = true) (hnone : t.position = none)
    (h : Agrees { t with position := some a } rest s) : t.Agrees (a :: rest) s := by
  obtain ⟨hdashes, hout⟩ := ne_of_isPlain ha
  refine ⟨fun f => ?_, ?_, ?_⟩
  · rw [h.flags, optionsOf_cons hdashes, List.mem_cons, or_iff_right (argument_ne_of_isPlain ha f)]
  · rw [h.out, optionsOf_cons hdashes, outGiven, if_neg hout, attachedOut?_of_isPlain ha,
      Option.none_or]
  · rw [h.position, hnone, positions_plain ha, List.head?_cons]
    rfl

end Agrees

/-- Accepted arguments are read to what they give. Where an option still waits for its value, that
stands in front of them. -/
theorem agrees_readAll (hnames : t.noMoreNames = false) {arguments : List String}
    (h : t.readAll generateNames arguments = .ok s) :
    (t.openOut = none → t.Agrees arguments s) ∧
    (t.openOut = some none → ∃ value rest, arguments = value :: rest ∧ isPlain value = true ∧
      t.out = none ∧ Agrees { t with out := some value, openOut := none } rest s) := by
  induction arguments generalizing t with
  | nil =>
    refine ⟨fun hopen => ?_, fun hopen => absurd h (not_settle_of_waiting hopen)⟩
    obtain rfl := Except.ok.inj ((settle_of_openOut hopen).symm.trans h)
    exact ⟨by simp [optionsOf], by simp [optionsOf, outGiven], by simp [positions]⟩
  | cons a rest ih =>
    obtain ⟨u, hu, hrest⟩ := bind_eq_ok.1 h
    have hread := reads_next hnames hu
    constructor
    · intro hopen
      have hsettle := settle_of_openOut hopen
      cases hread with
      | dashes ha =>
        subst ha
        obtain ⟨hflags, hout, hposition⟩ :=
          readAll_positions (t := { t with noMoreNames := true }) hopen rfl hrest
        exact .dashes hflags hout hposition
      | flag ha hf =>
        subst ha
        obtain ⟨t', ht', -, -, -, rfl⟩ := setFlag_eq_ok_iff.1 hf
        obtain rfl := Except.ok.inj (hsettle.symm.trans ht')
        exact ((ih (t := { t with flags := _ :: t.flags }) hnames hrest).1 hopen).flag
      | out ha hout =>
        rw [nameOut, hsettle] at hout
        obtain rfl := Except.ok.inj hout
        obtain ⟨value, rest, rfl, hplain, hnone, h⟩ :=
          (ih (t := { t with openOut := some none }) hnames hrest).2 rfl
        exact h.outValue ha hplain hnone
      | attached hne ha hout =>
        rw [nameOut, hsettle] at hout
        obtain ⟨hnone, rfl⟩ := setOut_eq_ok_iff.1 hout
        exact ((ih (t := { t with out := some _, openOut := none }) hnames hrest).1 rfl).attached ha
          hne hnone
      | plain ha hplain =>
        obtain ⟨hnone, t', ht', rfl⟩ := settle_of_addPlain (by simp [hopen]) hplain
        obtain rfl := Except.ok.inj (hsettle.symm.trans ht')
        exact ((ih (t := { t with position := some a }) hnames hrest).1 hopen).plain ha hnone
    · intro hopen
      have hwaits {t' : Taken} : t.settle ≠ .ok t' := not_settle_of_waiting hopen
      cases hread with
      | dashes ha =>
        exact absurd hrest (readAll_waiting (t := { t with noMoreNames := true }) hopen rfl)
      | flag ha hf =>
        obtain ⟨t', ht', -⟩ := setFlag_eq_ok_iff.1 hf
        exact absurd ht' hwaits
      | out ha hout | attached hne ha hout =>
        obtain ⟨t', ht', -⟩ := bind_eq_ok.1 hout
        exact absurd ht' hwaits
      | plain ha hplain =>
        rw [addPlain, if_pos ⟨hopen, hnames⟩] at hplain
        obtain rfl := Except.ok.inj hplain
        obtain ⟨t', ht'⟩ := settle_of_readAll (by simp) hrest
        rw [readAll_settle ht'] at hrest
        obtain ⟨hnone, rfl⟩ := setOut_eq_ok_iff.1 ht'
        exact ⟨a, rest, rfl, ha, hnone,
          (ih (t := { t with out := some a, openOut := none }) hnames hrest).1 rfl⟩

end Taken

/-! ## Requests -/

/-- The dialect that options ask for, and else the one of the project. -/
def dialectGiven (options : List String) (standard : Dialect) : Dialect :=
  if "--typescript" ∈ options then .typescript
  else if "--javascript" ∈ options then .javascript
  else standard

variable {arguments : List String} {r : Request}

/-- A request is what its arguments give. -/
theorem Request.ofArguments_given (h : Request.ofArguments generateNames arguments = .ok r) :
    r.project = (positions arguments).head?.getD "hookgen.toml" ∧
      r.out = outGiven (optionsOf arguments) ∧
      (∀ p : Project, r.adjust p =
        { p with dialect := dialectGiven (optionsOf arguments) p.dialect }) ∧
      (r.dryRun = true ↔ "--dry-run" ∈ optionsOf arguments) := by
  obtain ⟨s, hs, hr⟩ := bind_eq_ok.1 h
  have hagrees := (Taken.agrees_readAll rfl hs).1 rfl
  have hflag (f : Flag) : s.flags.contains f = true ↔ f.argument ∈ optionsOf arguments := by
    rw [List.contains_iff_mem, hagrees.flags]
    exact or_iff_right List.not_mem_nil
  have hdry := Request.ofTaken_dryRun hr
  rw [← List.contains_iff_mem, hflag] at hdry
  unfold Request.ofTaken at hr
  dsimp only at hr
  split at hr
  · cases hr
  · cases hr
    refine ⟨?_, hagrees.out, fun p => ?_, hdry⟩
    · rw [hagrees.position]
      rfl
    · unfold Request.adjust dialectGiven
      have hts : s.flags.contains .typescript = true ↔ "--typescript" ∈ optionsOf arguments :=
        hflag .typescript
      have hjs : s.flags.contains .javascript = true ↔ "--javascript" ∈ optionsOf arguments :=
        hflag .javascript
      simp only [hts, hjs]
      by_cases ht : "--typescript" ∈ optionsOf arguments
      · simp only [if_pos ht]
      · by_cases hj : "--javascript" ∈ optionsOf arguments
        · simp only [if_neg ht, if_pos hj]
        · simp only [if_neg ht, if_neg hj]

end ContractHooks.Command
