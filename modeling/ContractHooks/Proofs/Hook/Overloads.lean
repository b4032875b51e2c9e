-- Overloads: what the comments of hooks tell of the functions or events of one name. The signature
-- of each member is listed where there are several members, so that a signature that is declared
-- twice is listed twice, and a name may count as overloaded though its members all have one.
import ContractHooks.Abi.Reader
import ContractHooks.Proofs.Abi.Outline
import ContractHooks.Proofs.Hook.Function
import ContractHooks.Proofs.Hook.Given

namespace ContractHooks

namespace Abi

/-- Whether the name of a group has more than one member. -/
def Group.isOverloaded : Group → Bool
  | .read o | .write o => o.isOverloaded
  | .event o => o.isOverloaded

/-- The signatures of the functions or events of a key, in the order of the interface. -/
def signaturesOf (items : List Item) (k : GroupClass × String) : List String :=
  ((outlines items).filter fun o => o.key = k).map Outline.signature

/-- A name is overloaded just where its key has several signatures, with each counted as often as it
is declared. -/
theorem isOverloaded_iff {items : List Item} {g : Group} (hg : g ∈ groups items) :
    g.isOverloaded = true ↔ 1 < (signaturesOf items g.key).length := by
  have hlength : (signaturesOf items g.key).length = (outlines g.entries).length := by
    rw [signaturesOf, List.length_map, outlines_entries hg]
  rw [hlength]
  cases g <;>
    simp [Group.isOverloaded, Overloads.isOverloaded, Group.entries, outlines_functions,
      outlines_events]

/-! ## Signatures -/

/-- Some two of the signatures differ. -/
def Differ (signatures : List String) : Prop := ∃ s ∈ signatures, ∃ t ∈ signatures, s ≠ t

instance (signatures : List String) : Decidable (Differ signatures) :=
  inferInstanceAs (Decidable (∃ s ∈ signatures, ∃ t ∈ signatures, s ≠ t))

/-- The signatures that are listed: all of them, where there are several. -/
def listed (signatures : List String) : List String :=
  if 1 < signatures.length then signatures else []

/-- The signatures with each told once, where some differ. -/
def toldApart (signatures : List String) : List String :=
  if Differ signatures then signatures.eraseDups else []

section Signatures

variable {signatures : List String}

theorem Differ.length (h : Differ signatures) : 1 < signatures.length := by
  obtain ⟨s, hs, t, ht, hne⟩ := h
  match signatures with
  | [] => cases hs
  | [u] => exact absurd ((List.mem_singleton.1 hs).trans (List.mem_singleton.1 ht).symm) hne
  | _ :: _ :: _ => exact Nat.succ_lt_succ (Nat.succ_pos _)

theorem differ_of_nodup (h : signatures.Nodup) (hlength : 1 < signatures.length) :
    Differ signatures := by
  match signatures with
  | s :: t :: rest =>
    have hne : s ≠ t := fun hst => (List.nodup_cons.1 h).1 (hst ▸ List.mem_cons_self)
    exact ⟨s, List.mem_cons_self, t, List.mem_cons_of_mem _ List.mem_cons_self, hne⟩

/-- Several signatures of which none differ are one signature, over and over. -/
theorem not_differ_iff :
    1 < signatures.length ∧ ¬ Differ signatures ↔
      ∃ s n, signatures = List.replicate (n + 2) s := by
  refine ⟨fun ⟨hlength, hsame⟩ => ?_, ?_⟩
  · match signatures with
    | s :: t :: rest =>
      refine ⟨s, rest.length, List.eq_replicate_iff.2 ⟨rfl, fun u hu => ?_⟩⟩
      by_contra hne
      exact hsame ⟨u, hu, s, List.mem_cons_self, hne⟩
  · rintro ⟨s, n, rfl⟩
    refine ⟨by simp, fun ⟨t, ht, u, hu, hne⟩ => ?_⟩
    exact hne ((List.eq_of_mem_replicate ht).trans (List.eq_of_mem_replicate hu).symm)

theorem toldApart_sublist_listed (signatures : List String) :
    (toldApart signatures).Sublist (listed signatures) := by
  unfold toldApart
  split
  · next h =>
    rw [listed, if_pos h.length]
    exact eraseDups_sublist signatures
  · exact List.nil_sublist _

/-- Each signature is listed once, and only where some differ, just where none comes twice. -/
theorem toldApart_eq_listed_iff : toldApart signatures = listed signatures ↔ signatures.Nodup := by
  unfold toldApart listed
  by_cases hlength : 1 < signatures.length
  · rw [if_pos hlength]
    by_cases h : Differ signatures
    · rw [if_pos h, eraseDups_eq_self_iff]
    · have hne : [] ≠ signatures := by
        rintro rfl
        cases hlength
      rw [if_neg h]
      exact iff_of_false hne fun hnodup => h (differ_of_nodup hnodup hlength)
  · rw [if_neg hlength, if_neg fun h : Differ signatures => hlength h.length]
    refine iff_of_true rfl ?_
    match signatures with
    | [] => exact List.nodup_nil
    | [s] => exact List.nodup_singleton s
    | _ :: _ :: _ => exact absurd (Nat.succ_lt_succ (Nat.succ_pos _)) hlength

end Signatures

end Abi

namespace Hook

/-! ## Members -/

/-- What a comment tells of one of several functions or events of a name. -/
def toldOutline (o : Abi.Outline) : String :=
  match o.groupClass with
  | .read | .write => "`" ++ o.signature ++ "` (`" ++ Abi.selector o.signature ++ "`)"
  | .event => "`" ++ o.signature ++ "`"

/-- What the hooks of a key are for, by the outlines of its entries. -/
def memberOf (k : Abi.GroupClass × String) (outlines : List Abi.Outline) : Member where
  key := memberKey k.1
  name := k.2
  signatures := if 1 < outlines.length then outlines.map toldOutline else []

theorem toldOutline_function (f : Abi.Function) :
    toldOutline f.outline = "`" ++ f.signature ++ "` (`" ++ f.selector ++ "`)" := by
  unfold toldOutline Abi.Function.outline
  cases f.mutability.isRead <;> rfl

/-- What the hooks of a group are for hangs on the outlines of its entries. -/
theorem member_eq_memberOf (g : Abi.Group) :
    g.member = memberOf g.key (Abi.outlines g.entries) := by
  cases g with
  | read o | write o =>
    simp [Abi.Group.member, Member.ofFunctions, memberOf, memberKey, Abi.Group.key,
      Abi.Group.groupClass, Abi.Group.name, Abi.Group.entries, Abi.Overloads.isOverloaded,
      Abi.outlines_functions, toldOutline_function, Function.comp_def]
  | event o =>
    simp [Abi.Group.member, Member.ofEvents, memberOf, memberKey, Abi.Group.key,
      Abi.Group.groupClass, Abi.Group.name, Abi.Group.entries, Abi.Overloads.isOverloaded,
      Abi.outlines_events, toldOutline, Abi.Event.outline, Function.comp_def]

/-- What a comment tells of the signatures of a key. -/
def told (k : Abi.GroupClass × String) (signatures : List String) : List String :=
  signatures.map fun s => toldOutline ⟨k.1, k.2, s⟩

/-- The hooks of a group list the signatures of its key. -/
theorem signatures_member {items : List Abi.Item} {g : Abi.Group} (hg : g ∈ Abi.groups items) :
    g.member.signatures = told g.key (Abi.listed (Abi.signaturesOf items g.key)) := by
  rw [member_eq_memberOf, Abi.outlines_entries hg]
  unfold memberOf told Abi.listed Abi.signaturesOf
  rw [List.length_map]
  split
  · rw [List.map_map]
    refine List.map_congr_left fun o ho => ?_
    have hkey : o.key = g.key := by simpa using (List.mem_filter.1 ho).2
    rw [← hkey]
    rfl
  · rfl

/-! ## Comments -/

theorem length_overloadLine_pos (s : String) : 0 < (overloadLine s).length := by
  unfold overloadLine
  rw [String.length_append, String.length_append]
  exact Nat.add_pos_right _ (by decide)

/-- A list that lacks some of the lines of another is shorter. -/
theorem eq_or_length_join_lt {ss ts : List String} (h : ss.Sublist ts) :
    ss = ts ∨ (String.join (ss.map overloadLine)).length <
      (String.join (ts.map overloadLine)).length := by
  simp only [String.length_join, List.map_map]
  induction h with
  | slnil => exact .inl rfl
  | @cons ss ts t h ih =>
    have hpos := length_overloadLine_pos t
    refine .inr ?_
    rw [List.map_cons, List.sum_cons, Function.comp_apply]
    rcases ih with rfl | hlt <;> omega
  | @cons_cons ss ts t h ih =>
    refine ih.imp (congrArg _) fun hlt => ?_
    rw [List.map_cons, List.map_cons, List.sum_cons, List.sum_cons]
    omega

theorem length_overloadList (ss : List String) :
    (overloadList ss).length =
      if ss = [] then 0 else 17 + (String.join (ss.map overloadLine)).length := by
  unfold overloadList
  simp only [List.isEmpty_iff]
  split
  · rfl
  · rw [String.length_append]
    rfl

/-- A list of overloads is told by its text from one that has more. -/
theorem overloadList_inj_of_sublist {ss ts : List String} (h : ss.Sublist ts) :
    overloadList ss = overloadList ts ↔ ss = ts := by
  refine ⟨fun htexts => ?_, congrArg _⟩
  have hlength := congrArg String.length htexts
  rw [length_overloadList, length_overloadList] at hlength
  rcases eq_or_length_join_lt h with heq | hlt
  · exact heq
  · have hts : ts ≠ [] := by
      rintro rfl
      cases hlt
    rw [if_neg hts] at hlength
    split at hlength <;> omega

/-- The text of a hook with some list of overloads in its comment. -/
def textListing (hook : Hook) (name : String) (target : Target) (dialect : Dialect)
    (overloads : List String) : String :=
  "/**\n * Wraps " ++ Mention.link hook.layout.primitive ++ " with "
    ++ series ((mentions target hook.member).map Mention.text) ++ ".\n"
    ++ overloadList overloads ++ " */\n" ++ (hook.parts name target).function dialect

theorem text_eq_textListing {hook : Hook} {m : Member} (hm : hook.member = some m) (name : String)
    (target : Target) (dialect : Dialect) :
    (hook.fragment name target).text dialect =
      hook.textListing name target dialect m.signatures := by
  have hsignatures : (hook.member.map Member.signatures).getD [] = m.signatures := by
    rw [hm]
    rfl
  rw [text_eq_function, docComment_eq, commentBody, hsignatures]
  rfl

theorem textListing_inj_of_sublist (hook : Hook) (name : String) (target : Target)
    (dialect : Dialect) {ss ts : List String} (h : ss.Sublist ts) :
    hook.textListing name target dialect ss = hook.textListing name target dialect ts ↔
      ss = ts := by
  unfold textListing
  rw [String.append_left_inj, String.append_left_inj, String.append_right_inj,
    overloadList_inj_of_sublist h]

/-! ## The law -/

/-- A name is overloaded just where it has several members. So it is just where some of their
signatures differ, unless they all have the same one. The hooks of the name tell the signatures of
all members in the order of the interface, with selectors for functions, if there are several
members. They tell each signature once, and only where some differ, just where no two members have
the same one. -/
theorem a_signature_is_listed_for_each_member (items : List Abi.Item) {g : Abi.Group}
    (hg : g ∈ Abi.groups items) :
    let signatures := Abi.signaturesOf items g.key
    (g.isOverloaded = true ↔ 1 < signatures.length) ∧
    ((g.isOverloaded = true ↔ Abi.Differ signatures) ↔
      ¬ ∃ s n, signatures = List.replicate (n + 2) s) ∧
    ∀ hook ∈ ofGroup g, ∀ name target dialect,
      (hook.fragment name target).text dialect =
        hook.textListing name target dialect (told g.key (Abi.listed signatures)) ∧
      ((hook.fragment name target).text dialect =
          hook.textListing name target dialect (told g.key (Abi.toldApart signatures)) ↔
        signatures.Nodup) := by
  intro signatures
  have hoverloaded : g.isOverloaded = true ↔ 1 < signatures.length := Abi.isOverloaded_iff hg
  refine ⟨hoverloaded, ?_, fun hook hhook name target dialect => ?_⟩
  · have hlength : Abi.Differ signatures → 1 < signatures.length := Abi.Differ.length
    rw [hoverloaded, ← Abi.not_differ_iff]
    tauto
  · have htext : (hook.fragment name target).text dialect =
        hook.textListing name target dialect (told g.key (Abi.listed signatures)) := by
      rw [text_eq_textListing (of_mem_ofGroup hhook).2, signatures_member hg]
    have hsub : (Abi.toldApart signatures).Sublist (Abi.listed signatures) :=
      Abi.toldApart_sublist_listed signatures
    have htold : (told g.key (Abi.toldApart signatures)).Sublist
        (told g.key (Abi.listed signatures)) := hsub.map _
    refine ⟨htext, ?_⟩
    rw [htext, eq_comm, textListing_inj_of_sublist hook name target dialect htold,
      ← Abi.toldApart_eq_listed_iff]
    refine ⟨fun h => hsub.eq_of_length ?_, congrArg _⟩
    simpa [told] using congrArg List.length h

/-- An event of a token, with inputs of the given types. -/
def transferEvent (types : List String) : Abi.Event :=
  ⟨"Transfer", types.map fun type => ⟨"", type, none, none, false⟩, false⟩

/-- The two transfers of a token are listed, each with its own inputs. -/
theorem the_two_transfers_of_a_token_are_listed :
    let plain := transferEvent ["address"]
    let counted := transferEvent ["address", "uint256"]
    let g : Abi.Group := .event ⟨"Transfer", [plain, counted]⟩
    g ∈ Abi.groups [.event plain, .event counted] ∧ g.isOverloaded = true ∧
      ∀ hook ∈ ofGroup g, ∀ name target dialect,
        (hook.fragment name target).text dialect =
          hook.textListing name target dialect
            ["`Transfer(address)`", "`Transfer(address,uint256)`"] := by
  intro plain counted g
  have hg : g ∈ Abi.groups [.event plain, .event counted] := List.mem_singleton_self g
  obtain ⟨hoverloaded, -, htexts⟩ := a_signature_is_listed_for_each_member _ hg
  have hlength : 1 < (Abi.signaturesOf [.event plain, .event counted] g.key).length := by decide
  have htold : told g.key (Abi.listed (Abi.signaturesOf [.event plain, .event counted] g.key)) =
      ["`Transfer(address)`", "`Transfer(address,uint256)`"] := by decide
  refine ⟨hg, hoverloaded.2 hlength, fun hook hhook name target dialect => ?_⟩
  rw [← htold]
  exact (htexts hook hhook name target dialect).1

/-- An interface that declares a function without inputs twice, once as one that reads nothing. -/
def totalTwice : Json :=
  let total (mutability : String) : Json :=
    .object [("type", .text "function"), ("name", .text "total"),
      ("stateMutability", .text mutability)]
  .list [total "view", total "pure"]

/-- A total that is declared twice counts as overloaded though its signatures do not differ, and the
one signature is listed twice. -/
theorem a_total_that_is_declared_twice_is_listed_twice :
    ∃ items g, Abi.ofJson totalTwice = .ok items ∧ Abi.groups items = [g] ∧
      g.isOverloaded = true ∧ ¬ Abi.Differ (Abi.signaturesOf items g.key) ∧
      ∀ hook ∈ ofGroup g, ∀ name target dialect,
        (hook.fragment name target).text dialect =
          hook.textListing name target dialect (told g.key ["total()", "total()"]) := by
  let total (m : Abi.Mutability) : Abi.Function := ⟨"total", [], [], m⟩
  let g : Abi.Group := .read ⟨"total", [total .view, total .pure]⟩
  refine ⟨[.function (total .view), .function (total .pure)], g, rfl, rfl, rfl, by decide, ?_⟩
  intro hook hhook name target dialect
  rw [text_eq_textListing (of_mem_ofGroup hhook).2]
  rfl

end Hook

end ContractHooks
