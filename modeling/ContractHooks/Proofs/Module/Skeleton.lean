-- What a run sees of its contracts: the name, the names of the constants, how the address is given,
-- and the outline of the interface. Contracts that agree on these lead to the same module or to the
-- same error, whatever else is declared in their interfaces.
import ContractHooks.Module.Generate
import ContractHooks.Proofs.Hook.Overloads

namespace ContractHooks

/-! ## Hooks -/

namespace Hook

/-- What a fragment shows of its hook: the kind, the layout and what the hook is for. -/
structure Profile where
  kind : Kind
  layout : Layout
  member : Option Member

/-- The profile of a hook. -/
def profile (hook : Hook) : Profile := ⟨hook.kind, hook.layout, hook.member⟩

theorem memberParameter_of_layout {a b : Hook} (h : a.layout = b.layout) :
    a.memberParameter = b.memberParameter := by
  cases a <;> cases b <;> first | rfl | cases h

/-- Hooks of one profile are written alike. -/
theorem fragment_of_profile {a b : Hook} (h : a.profile = b.profile) (name : String)
    (target : Target) : a.fragment name target = b.fragment name target := by
  have hlayout : a.layout = b.layout := congrArg Profile.layout h
  have hmember : a.member = b.member := congrArg Profile.member h
  have hparameter : a.memberParameter = b.memberParameter := memberParameter_of_layout hlayout
  simp only [fragment, slots, hlayout, hmember, hparameter]

/-! ### Hooks of an interface -/

/-- The profiles of the hooks of a key. -/
def profilesOf (k : Abi.GroupClass × String) (m : Member) : List Profile :=
  match k.1 with
  | .read => [⟨.functionRead k.2, .read, some m⟩]
  | .write =>
    [⟨.prepareFunctionWrite k.2, .prepareWrite, some m⟩, ⟨.functionWrite k.2, .write, some m⟩]
  | .event => [⟨.itemEvent k.2, .event, some m⟩]

theorem map_profile_ofGroup (g : Abi.Group) :
    (ofGroup g).map profile = profilesOf g.key g.member := by
  cases g <;> rfl

theorem map_profile_groups (items : List Abi.Item) :
    ((Abi.groups items).flatMap ofGroup).map profile =
      (Abi.keys items).flatMap fun k =>
        profilesOf k (memberOf k ((Abi.outlines items).filter fun o => o.key = k)) := by
  rw [List.map_flatMap, ← Abi.map_key_groups, List.flatMap_map]
  refine List.flatMap_congr fun g hg => ?_
  rw [map_profile_ofGroup, member_eq_memberOf, Abi.outlines_entries hg]

variable {a b : List Abi.Item}

theorem general_of_outlines (h : Abi.outlines a = Abi.outlines b) :
    general (Abi.groups a) = general (Abi.groups b) := by
  simp only [general, Abi.any_groupClass_eq_keys, Abi.keys_of_outlines h]

/-- Interfaces of one outline have hooks of the same profiles. -/
theorem map_profile_all (h : Abi.outlines a = Abi.outlines b) :
    (Hook.all a).map profile = (Hook.all b).map profile := by
  unfold Hook.all
  rw [List.map_append, List.map_append, map_profile_groups, map_profile_groups,
    general_of_outlines h, Abi.keys_of_outlines h, h]

end Hook

/-- Interfaces of one outline have the same hooks planned. -/
theorem map_profile_plan {a b : List Abi.Item} (h : Abi.outlines a = Abi.outlines b)
    (t : Hook.Toggles) : (plan t a).map Hook.profile = (plan t b).map Hook.profile := by
  have hplan (items : List Abi.Item) : (plan t items).map Hook.profile =
      ((Hook.all items).map Hook.profile).filter fun p => t.enables p.kind := by
    rw [List.filter_map]
    rfl
  rw [hplan, hplan, Hook.map_profile_all h]

/-- Hooks of the same profiles make the same claims and are written alike. -/
theorem claimHooks_of_profiles (dialect : Dialect) (contract : String) (target : Target)
    {as bs : List Hook} (h : as.map Hook.profile = bs.map Hook.profile) (r : Hook.Registry) :
    claimHooks (Hook.emit dialect) contract target as r =
      claimHooks (Hook.emit dialect) contract target bs r := by
  induction as generalizing bs r with
  | nil =>
    obtain rfl : bs = [] := List.map_eq_nil_iff.1 h.symm
    rfl
  | cons a as ih =>
    obtain ⟨b, bs, rfl, hb, hbs⟩ := List.map_eq_cons_iff.1 h.symm
    have hkind : b.kind = a.kind := congrArg Hook.Profile.kind hb
    simp only [claimHooks, Hook.emit, hkind, Hook.fragment_of_profile hb] at ih ⊢
    simp only [ih hbs.symm]

/-! ## Contracts -/

/-- How an address is given. -/
inductive AddressForm
  | single
  | deployments
  deriving Repr, DecidableEq

/-- How the address is given, whichever it is. -/
def Address.form : Address → AddressForm
  | .single _ => .single
  | .deployments _ => .deployments

/-- What a run sees of a contract. -/
structure Skeleton where
  name : String
  constants : ConstantNames
  address : Option AddressForm
  entries : List Abi.Outline
  deriving Repr, DecidableEq

/-- The skeleton of a contract. -/
def Contract.skeleton (c : Contract) : Skeleton where
  name := c.name
  constants := c.constants
  address := c.address.map Address.form
  entries := Abi.outlines c.abi

/-- A target hangs on the skeleton of its contract, and so does the error where there is none. -/
theorem target_of_skeleton {c d : Contract} (h : c.skeleton = d.skeleton) :
    c.target = d.target := by
  have hname : c.name = d.name := congrArg Skeleton.name h
  have hconstants : c.constants = d.constants := congrArg Skeleton.constants h
  have haddress : c.address.map Address.form = d.address.map Address.form :=
    congrArg Skeleton.address h
  unfold Contract.target
  rw [hname, hconstants]
  cases hc : c.address with
  | none =>
    cases hd : d.address with
    | none => rfl
    | some address => simp [hc, hd] at haddress
  | some address =>
    cases hd : d.address with
    | none => simp [hc, hd] at haddress
    | some other =>
      have hform : address.form = other.form := by simpa [hc, hd] using haddress
      cases address with
      | single a =>
        cases other with
        | single b => cases d.constants.address <;> rfl
        | deployments b => cases hform
      | deployments a =>
        cases other with
        | single b => cases hform
        | deployments b => cases d.constants.address <;> rfl

theorem emittedFrom_of_skeletons (dialect : Dialect) (t : Hook.Toggles) {xs ys : List Contract}
    (h : xs.map Contract.skeleton = ys.map Contract.skeleton) (r : Hook.Registry) :
    emittedFrom (Hook.emit dialect) t xs r = emittedFrom (Hook.emit dialect) t ys r := by
  induction xs generalizing ys r with
  | nil =>
    obtain rfl : ys = [] := List.map_eq_nil_iff.1 h.symm
    rfl
  | cons c xs ih =>
    obtain ⟨d, ys, rfl, hd, hys⟩ := List.map_eq_cons_iff.1 h.symm
    have hname : d.name = c.name := congrArg Skeleton.name hd
    have hplan : (plan t d.abi).map Hook.profile = (plan t c.abi).map Hook.profile :=
      map_profile_plan (congrArg Skeleton.entries hd) t
    simp only [emittedFrom, target_of_skeleton hd, hname, ih hys.symm,
      claimHooks_of_profiles _ _ _ hplan]

/-! ## Bare contracts -/

/-- An address of which only the form is left. -/
def Address.bare : Address → Address
  | .single _ => .single ""
  | .deployments _ => .deployments (Deployments.ofList [])

/-- A contract without all that its hooks do not hang on: the addresses themselves, the entries
that are neither functions nor events, and of these the outputs, the names and other marks of
parameters, and how exactly they read or write. -/
def Contract.bare (c : Contract) : Contract :=
  { c with abi := Abi.bareItems c.abi, address := c.address.map Address.bare }

theorem skeleton_bare (c : Contract) : c.bare.skeleton = c.skeleton := by
  have haddress : (c.address.map Address.bare).map Address.form = c.address.map Address.form := by
    rw [Option.map_map]
    cases c.address with
    | none => rfl
    | some address => cases address <;> rfl
  simp only [Contract.skeleton, Contract.bare, haddress, Abi.outlines_bareItems]

/-! ## The law -/

/-- A run hangs on the skeletons of its contracts alone: with others of the same skeletons it gives
the same module or ends in the same error. In particular it does so with the bare contracts. -/
theorem a_run_sees_only_skeletons (toggles : Hook.Toggles) (dialect : Dialect) :
    (∀ xs ys : List Contract, xs.map Contract.skeleton = ys.map Contract.skeleton →
      generate toggles dialect xs = generate toggles dialect ys) ∧
    ∀ xs : List Contract,
      generate toggles dialect (xs.map Contract.bare) = generate toggles dialect xs := by
  have hsame {xs ys : List Contract}
      (h : xs.map Contract.skeleton = ys.map Contract.skeleton) :
      generate toggles dialect xs = generate toggles dialect ys := by
    unfold generate writtenHooks
    rw [emittedFrom_of_skeletons dialect toggles h]
  refine ⟨fun xs ys h => hsame h, fun xs => hsame ?_⟩
  rw [List.map_map]
  exact List.map_congr_left fun c _ => skeleton_bare c

/-- A counter with a constructor and an error, whose function returns a number. -/
def toldCounter : Contract :=
  ⟨"Counter",
    [.special .constructor ⟨"constructor", [⟨"start", "uint256", none, none, false⟩], [], .payable⟩,
     .function ⟨"count", [⟨"by", "tuple", some "struct Step", some [⟨"size", "uint8", none, none,
       false⟩], false⟩], [⟨"", "uint256", none, none, false⟩], .view⟩,
     .error ⟨"Overflow", []⟩],
    some (.single "0x01"), .standard "Counter" true⟩

/-- A counter at another address of which the function alone is known. -/
def untoldCounter : Contract :=
  ⟨"Counter",
    [.function ⟨"count", [⟨"", "tuple", none, some [⟨"", "uint8", none, none, false⟩], false⟩], [],
      .pure⟩],
    some (.single "0x02"), .standard "Counter" true⟩

/-- What is told of the one counter and not of the other is not seen. -/
theorem two_counters_have_one_module :
    [toldCounter].map Contract.skeleton = [untoldCounter].map Contract.skeleton ∧
      generate {} .typescript [toldCounter] = generate {} .typescript [untoldCounter] := by
  have hskeletons : [toldCounter].map Contract.skeleton = [untoldCounter].map Contract.skeleton :=
    by decide
  exact ⟨hskeletons, (a_run_sees_only_skeletons {} .typescript).1 _ _ hskeletons⟩

end ContractHooks
