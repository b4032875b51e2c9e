-- How the names of hooks are put together: a start, the name of the contract with capitals, and an
-- ending. Nothing parts the three, and still a hook that prepares a call is told from the other hooks
-- of its contract by its start: what is left of the word for it behind the contract's name would be
-- small letters, and no ending starts with one.
import ContractHooks.Proofs.Text.Initial

namespace ContractHooks.Hook

/-! ## Starts and endings -/

/-- Whether the hooks of a kind prepare a call. -/
def Kind.prepares : Kind → Bool
  | .prepareContractWrite | .prepareFunctionWrite _ => true
  | .contract | .contractRead | .contractWrite | .contractEvent => false
  | .functionRead _ | .functionWrite _ | .itemEvent _ => false

/-- What stands before the name of the contract. -/
def Kind.start (kind : Kind) : String := if kind.prepares then "usePrepare" else "use"

/-- What stands behind the name of the contract. -/
def Kind.ending : Kind → String
  | .contract => ""
  | .contractRead => "Read"
  | .contractWrite | .prepareContractWrite => "Write"
  | .contractEvent => "Event"
  | .functionRead name | .functionWrite name | .prepareFunctionWrite name => Text.pascal name
  | .itemEvent name => "On" ++ Text.pascal name

theorem Kind.hookName_eq (contract : String) (kind : Kind) :
    kind.hookName contract = kind.start ++ Text.pascal contract ++ kind.ending := by
  cases kind <;> simp [Kind.hookName, Kind.start, Kind.prepares, Kind.ending, String.append_assoc]

/-- No ending starts with a small letter. -/
theorem Kind.startsTall_ending (kind : Kind) : Text.StartsTall kind.ending.toList := by
  cases kind with
  | functionRead name | functionWrite name | prepareFunctionWrite name =>
    exact Text.startsTall_pascal name
  | itemEvent name =>
    rw [Kind.ending, String.toList_append]
    exact Text.StartsTall.append (by decide) (by decide) _
  | contract | contractRead | contractWrite | prepareContractWrite | contractEvent => decide

/-- Hooks of one contract that start alike have one name just where they have one ending. -/
theorem Kind.hookName_inj {contract : String} {k l : Kind} (h : k.prepares = l.prepares) :
    k.hookName contract = l.hookName contract ↔ k.ending = l.ending := by
  rw [k.hookName_eq, l.hookName_eq, Kind.start, Kind.start, h, String.append_right_inj]

/-! ## Hooks that prepare a call -/

/-- A text with `Prepare` before it is not that text with something behind it that starts with no
small letter, unless it is empty or starts with `Prepare` itself. -/
theorem prepare_append_ne {owner ending rest : List Char} (hne : owner ≠ [])
    (hplain : ¬ "Prepare".toList <+: owner) (htall : Text.StartsTall ending) :
    "Prepare".toList ++ (owner ++ rest) ≠ owner ++ ending := by
  intro h
  have hbegins : owner <+: "Prepare".toList := by
    have howner : owner <+: "Prepare".toList ++ (owner ++ rest) := ⟨ending, h.symm⟩
    exact (List.prefix_or_prefix_of_prefix howner (List.prefix_append _ _)).resolve_right hplain
  obtain ⟨cut, hcut⟩ := hbegins
  rw [← hcut, List.append_assoc, List.append_cancel_left_eq] at h
  cases cut with
  | nil =>
    rw [List.append_nil] at hcut
    exact hplain (hcut ▸ List.prefix_refl _)
  | cons c cut =>
    -- The contract's name has the first letter of `Prepare`, so that a later one starts the ending.
    have hsmall : c.isLower = true := by
      cases owner with
      | nil => exact absurd rfl hne
      | cons d owner =>
        have hrest : owner ++ c :: cut = "repare".toList := (List.cons.inj hcut).2
        have hletters : "repare".toList.all Char.isLower = true := by decide
        exact List.all_eq_true.1 hletters c (hrest ▸ List.mem_append_right owner List.mem_cons_self)
    have htaller := htall c (by rw [← h]; rfl)
    rw [hsmall] at htaller
    cases htaller

/-- A hook that prepares a call and one that does not have two names, if the contract's name has
something in it and does not start with `Prepare`. -/
theorem hookName_ne_of_prepares {contract : String} (hne : Text.pascal contract ≠ "")
    (hplain : ¬ "Prepare".toList <+: (Text.pascal contract).toList) {k l : Kind}
    (hk : k.prepares = true) (hl : l.prepares = false) :
    k.hookName contract ≠ l.hookName contract := by
  intro h
  have hstart : k.start = "use" ++ "Prepare" ∧ l.start = "use" := by
    simp [Kind.start, hk, hl]
  rw [k.hookName_eq, l.hookName_eq, hstart.1, hstart.2, String.append_assoc, String.append_assoc,
    String.append_assoc, String.append_right_inj] at h
  have hchars := congrArg String.toList h
  simp only [String.toList_append] at hchars
  refine prepare_append_ne ?_ hplain l.startsTall_ending hchars
  rwa [Ne, String.toList_eq_nil_iff]

/-- Two hooks of one such contract have one name just where they start alike and have one ending. -/
theorem Kind.hookName_eq_iff {contract : String} (hne : Text.pascal contract ≠ "")
    (hplain : ¬ "Prepare".toList <+: (Text.pascal contract).toList) (k l : Kind) :
    k.hookName contract = l.hookName contract ↔ k.prepares = l.prepares ∧ k.ending = l.ending := by
  by_cases h : k.prepares = l.prepares
  · rw [Kind.hookName_inj h]
    exact (and_iff_right h).symm
  · refine iff_of_false (fun hname => ?_) fun hboth => h hboth.1
    cases hk : k.prepares with
    | true =>
      have hl : l.prepares = false := by simpa [hk] using h
      exact hookName_ne_of_prepares hne hplain hk hl hname
    | false =>
      have hl : l.prepares = true := by simpa [hk] using h
      exact hookName_ne_of_prepares hne hplain hl hk hname.symm

/-! ## Hooks of two contracts -/

/-- `Prepare` before one text and `On` behind another give one text just where the two have all the
rest in common: the word for one cannot reach into the word for the other. -/
theorem append_on_eq_iff {p q : String} :
    p ++ "On" = "Prepare" ++ q ↔ ∃ r, p = "Prepare" ++ r ∧ q = r ++ "On" := by
  constructor
  · intro h
    have hchars := congrArg String.toList h
    rw [String.toList_append, String.toList_append] at hchars
    rcases List.append_eq_append_iff.1 hchars with ⟨cut, hprepare, hon⟩ | ⟨r, hp, hq⟩
    · -- What is left of `Prepare` starts `On`, so nothing is left.
      cases cut with
      | nil =>
        refine ⟨"", ?_, ?_⟩
        · rw [← String.toList_inj, String.toList_append, hprepare]
          simp
        · rw [← String.toList_inj, String.toList_append, hon]
          rfl
      | cons c cut =>
        have hc : c = 'O' := (List.cons.inj hon).1.symm
        have hmem : c ∈ "Prepare".toList := by
          rw [hprepare]
          exact List.mem_append_right _ List.mem_cons_self
        rw [hc] at hmem
        exact absurd hmem (by decide)
    · refine ⟨String.ofList r, ?_, ?_⟩
      · simp [← String.toList_inj, hp]
      · simp [← String.toList_inj, hq]
  · rintro ⟨r, rfl, rfl⟩
    rw [String.append_assoc]

/-- The name of a contract with what the hooks of a kind, for functions or events of one name, add on
its two sides. -/
def Kind.framed : Kind → String → String
  | .prepareFunctionWrite _, owner => "Prepare" ++ owner
  | .itemEvent _, owner => owner ++ "On"
  | _, owner => owner

/-- When a hook of the first kind and one of the second, for functions or events of one name, get one
name: the contracts' names with capitals are given, and differ by what the kinds add. -/
def Kind.Meets : Kind → Kind → String → String → Prop
  | .prepareFunctionWrite _, .functionRead _, p, q
  | .prepareFunctionWrite _, .functionWrite _, p, q => q = "Prepare" ++ p
  | .itemEvent _, .functionRead _, p, q | .itemEvent _, .functionWrite _, p, q => q = p ++ "On"
  | .itemEvent _, .prepareFunctionWrite _, p, q => ∃ r, p = "Prepare" ++ r ∧ q = r ++ "On"
  | _, _, _, _ => False

theorem Kind.hookName_eq_framed (contract : String) {kind : Kind} {name : String}
    (h : kind.base? = some name) :
    kind.hookName contract = "use" ++ kind.framed (Text.pascal contract) ++ Text.pascal name := by
  have huse : "use" ++ "Prepare" = "usePrepare" := rfl
  cases kind <;> cases h <;>
    simp only [Kind.hookName, Kind.framed, ← String.append_assoc, huse]

theorem Kind.framed_eq_iff {p q : String} (h : p ≠ q) {k l : Kind} {name : String}
    (hk : k.base? = some name) (hl : l.base? = some name) :
    k.framed p = l.framed q ↔ Meets k l p q ∨ Meets l k q p := by
  have hon : "Prepare" ++ p = q ++ "On" ↔ ∃ r, q = "Prepare" ++ r ∧ p = r ++ "On" := by
    rw [eq_comm, append_on_eq_iff]
  cases k <;> cases hk <;> cases l <;> cases hl <;>
    simp [Kind.framed, Kind.Meets, h, append_on_eq_iff, hon, eq_comm]

end ContractHooks.Hook
