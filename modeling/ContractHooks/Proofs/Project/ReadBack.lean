-- An address and an entry of a project are read back from the JSON that they are written as. Chain
-- ids are written in decimal digits. When these are read, they are texts at first and in the order
-- of texts, and only then numbers again.
import ContractHooks.Project.Reader
import ContractHooks.Proofs.Contract.Deployments
import ContractHooks.Proofs.Json.Shape

namespace ContractHooks

/-! ## Chain ids in digits -/

theorem denotes_toString (n : Nat) : Denotes (toString n) n := by
  refine ⟨Nat.toDigits 10 n, .inl String.toList_ofList, Nat.toDigits_ne_nil, fun c hc => ?_, ?_⟩
  · have hdigit : c.isDigit = true := Nat.isDigit_of_mem_toDigits (by decide) (by decide) hc
    simpa [Char.isDigit, Char.le_def] using hdigit
  · rw [← foldl_eq_ofDigits]
    exact Nat.ofDigitChars_ten_toDigits

namespace Deployments

/-- The addresses by the digits of their chain ids. -/
def texts (d : Deployments) : List (String × String) :=
  d.entries.map fun p => (toString p.1.toNat, p.2)

theorem mem_texts_iff {d : Deployments} {key address : String} :
    (key, address) ∈ d.texts ↔ ∃ id, (id, address) ∈ d.entries ∧ toString id.toNat = key := by
  simp [texts]

/-- The digits of a chain id write no other one. -/
theorem eq_of_denotes_toString {id id' : UInt64} (h : Denotes (toString id'.toNat) id.toNat) :
    id' = id :=
  Address.eq_of_denotes (denotes_toString id'.toNat) h

theorem nodup_keys_texts (d : Deployments) : (d.texts.map Prod.fst).Nodup := by
  rw [texts, List.map_map, List.Nodup, List.pairwise_map]
  refine d.ascending.imp fun {p q} hlt hsame => ?_
  have hkey : toString p.1.toNat = toString q.1.toNat := hsame
  have hid : p.1 = q.1 := eq_of_denotes_toString (hkey ▸ denotes_toString q.1.toNat)
  exact UInt64.lt_irrefl _ (hid ▸ hlt)

theorem isChainId_of_mem_texts {d : Deployments} {p : String × String} (hp : p ∈ d.texts) :
    IsChainId p.1 := by
  obtain ⟨id, -, hkey⟩ := mem_texts_iff.1 hp
  exact ⟨id.toNat, id.toNat_lt, hkey ▸ denotes_toString id.toNat⟩

end Deployments

namespace Address

theorem toJson_deployments (d : Deployments) : toJson (.deployments d) = .ofTexts d.texts := by
  simp [toJson, Json.ofTexts, Deployments.texts]

/-- What is read off the digits of chain ids are the chain ids again. -/
theorem ofList_eq_of_texts {d : Deployments} {pairs : List (UInt64 × String)}
    (h : List.Forall₂ (fun p q => chainIdOfMember p = .ok q) (Ordered.ofList d.texts) pairs) :
    Deployments.ofList pairs = d := by
  refine Deployments.eq_of_entries (Ordered.eq_of_mem_iff lawfulChainIds
    (Deployments.ofList pairs).ascending d.ascending fun id address => ?_)
  rw [mem_entries_iff h]
  simp only [Ordered.lookup_reverse_iff d.nodup_keys_texts, Deployments.mem_texts_iff]
  constructor
  · rintro ⟨_, ⟨id', hmem, rfl⟩, hdenotes, -⟩
    exact Deployments.eq_of_denotes_toString hdenotes ▸ hmem
  · intro hmem
    refine ⟨_, ⟨id, hmem, rfl⟩, denotes_toString id.toNat, fun p hp hdenotes => ?_⟩
    obtain ⟨id', -, hkey⟩ := Deployments.mem_texts_iff.1 hp
    have hid : id' = id := Deployments.eq_of_denotes_toString (hkey ▸ hdenotes)
    rw [← hkey, hid]
    exact lt_irrefl _

theorem ofJson_toJson (a : Address) : ofJson a.toJson = .ok a := by
  cases a with
  | single s => rfl
  | deployments d =>
    rw [toJson_deployments]
    obtain ⟨a, ha⟩ := exists_ofJson_ofTexts_iff.2 fun p hp =>
      Deployments.isChainId_of_mem_texts (d := d) hp
    obtain ⟨pairs, hpairs, rfl⟩ := ofJson_ofTexts_eq_ok_iff.1 ha
    rw [ha, ofList_eq_of_texts hpairs]

end Address

/-! ## Shapes -/

open Json (Restores IsThere WrittenField)

namespace Address

theorem isThere_toJson (a : Address) : IsThere a.toJson := by
  cases a with
  | single s => exact Json.isThere_text s
  | deployments d => exact Json.isThere_object _

theorem restores_toJson (depth : Nat) (a : Address) :
    Restores shape.ofText (depth + 1) a.toJson a := by
  refine Json.restores_derived ?_ (ofJson_toJson a)
  cases a with
  | single s => exact Json.restores_value_text _ s
  | deployments d =>
    refine Json.restores_value_object fun m hm => ?_
    obtain ⟨p, -, rfl⟩ := List.mem_map.1 hm
    exact Json.restores_value_text _ p.2

end Address

namespace Entry

open Json.Shape

/-- The fields of an entry as they are written. -/
def written (e : Entry) : List (WrittenField Entry) :=
  let optionalText (s : Option String) : Json := (s.map Json.text).getD .null
  [.of "name" true text (fun s e => { e with name := s }) (.text e.name) e.name,
   .of "abi" true path (fun s e => { e with abi := s }) (.text e.abi) e.abi,
   .of "address" false (optional Address.shape) (fun a e => { e with address := a })
     ((e.address.map Address.toJson).getD .null) e.address,
   .of "abi_name" false (optional text) (fun s e => { e with abiName := s })
     (optionalText e.abiName) e.abiName,
   .of "address_name" false (optional text) (fun s e => { e with addressName := s })
     (optionalText e.addressName) e.addressName,
   .of "config_name" false (optional text) (fun s e => { e with configName := s })
     (optionalText e.configName) e.configName]

theorem isRestored_written (depth : Nat) (e : Entry) :
    ∀ w ∈ e.written, Json.IsRestored (depth + 1) w := by
  have hname (s : Option String) :
      Restores (optional text).ofText (depth + 1) ((s.map Json.text).getD .null) s :=
    Json.restores_optional Json.isThere_text (Json.restores_scalars_text _) s
  have haddress : Restores (optional Address.shape).ofText (depth + 1)
      ((e.address.map Address.toJson).getD .null) e.address :=
    Json.restores_optional Address.isThere_toJson (Address.restores_toJson depth) e.address
  simp only [written, List.forall_mem_cons]
  refine ⟨?_, ?_, ?_, ?_, ?_, ?_, List.forall_mem_nil _⟩
  · exact Json.isRestored_of _ _ _ (Json.restores_scalars_text _ e.name)
  · exact Json.isRestored_of _ _ _ (Json.restores_scalars_text _ e.abi)
  · exact Json.isRestored_of _ _ _ haddress
  · exact Json.isRestored_of _ _ _ (hname e.abiName)
  · exact Json.isRestored_of _ _ _ (hname e.addressName)
  · exact Json.isRestored_of _ _ _ (hname e.configName)

theorem restores_toJson (depth : Nat) (e : Entry) :
    Restores shape.ofText (depth + 2) e.toJson e :=
  Json.restores_record e.written "ContractSource" rfl (by decide) (isRestored_written depth e)

end Entry

/-! ## The law -/

/-- Whatever address or entry is written, it is read back as it was, and what is read is written as
the same text. -/
theorem what_is_written_is_read_back :
    (∀ a : Address, let text := Json.compact a.toJson
      Address.shape.read text = .ok a ∧
        ∀ b, Address.shape.read text = .ok b → Json.compact b.toJson = text) ∧
    ∀ e : Entry, let text := Json.compact e.toJson
      Entry.shape.read text = .ok e ∧
        ∀ f, Entry.shape.read text = .ok f → Json.compact f.toJson = text := by
  constructor
  · intro a
    have hread := Json.Shape.read_compact (a.restores_toJson 126)
    refine ⟨hread, fun b hb => ?_⟩
    rw [Except.ok.inj (hb.symm.trans hread)]
  · intro e
    have hread := Json.Shape.read_compact (e.restores_toJson 125)
    refine ⟨hread, fun f hf => ?_⟩
    rw [Except.ok.inj (hf.symm.trans hread)]

/-- Chains are written in the order of numbers, in which nine comes before ten. -/
example : Json.compact (Address.toJson (.deployments (Deployments.ofList [(10, "b"), (9, "a")]))) =
    "\x7b\"9\":\"a\",\"10\":\"b\"\x7d" := by decide

end ContractHooks
