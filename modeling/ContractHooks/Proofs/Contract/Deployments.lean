-- How an object of texts is read as deployments. Its keys have to be chain ids, where one number may
-- be written in several ways; of the keys for one number the greatest counts, in the order of bytes,
-- and of keys that are no chain ids the least is told.
import ContractHooks.Contract.Reader
import ContractHooks.Proofs.Ordered
import ContractHooks.Proofs.Results
import ContractHooks.Proofs.Text.ByteOrder
import Mathlib

namespace ContractHooks

open Text (utf8)

/-! ## Chain ids -/

/-- The number that a decimal digit stands for. -/
def digitValue (c : Char) : Nat := c.toNat - '0'.toNat

/-- The key writes a number: as decimal digits, at least one, behind a plus sign or not. -/
def Denotes (key : String) (n : Nat) : Prop :=
  ∃ digits : List Char, (key.toList = digits ∨ key.toList = '+' :: digits) ∧ digits ≠ [] ∧
    (∀ c ∈ digits, '0' ≤ c ∧ c ≤ '9') ∧ Nat.ofDigits 10 (digits.reverse.map digitValue) = n

/-- The key writes a number of sixty-four bits. -/
def IsChainId (key : String) : Prop := ∃ n < 2 ^ 64, Denotes key n

theorem foldl_eq_ofDigits (cs : List Char) :
    cs.foldl (fun n c => 10 * n + (c.toNat - '0'.toNat)) 0 =
      Nat.ofDigits 10 (cs.reverse.map digitValue) := by
  induction cs using List.reverseRecOn with
  | nil => rfl
  | append_singleton cs c ih =>
    rw [List.foldl_append, List.foldl_cons, List.foldl_nil, ih, List.reverse_append,
      List.reverse_singleton, List.singleton_append, List.map_cons, Nat.ofDigits_cons, Nat.add_comm]
    rfl

theorem numberOfDigits?_eq_some_iff {cs : List Char} {n : Nat} :
    numberOfDigits? cs = some n ↔
      cs ≠ [] ∧ (∀ c ∈ cs, '0' ≤ c ∧ c ≤ '9') ∧
        Nat.ofDigits 10 (cs.reverse.map digitValue) = n := by
  have hdigits : cs.all Json.isDigit = true ↔ ∀ c ∈ cs, '0' ≤ c ∧ c ≤ '9' := by
    simp [Json.isDigit]
  simp only [numberOfDigits?, foldl_eq_ofDigits, hdigits]
  split
  · next h =>
    rw [Option.some.injEq]
    exact ⟨fun hn => ⟨h.1, h.2, hn⟩, fun hn => hn.2.2⟩
  · next h =>
    refine iff_of_false (by simp) ?_
    rintro ⟨hne, hall, -⟩
    exact h ⟨hne, hall⟩

/-- A plus sign is no digit, so that it is clear which characters are. -/
theorem denotes_iff {key : String} {n : Nat} :
    Denotes key n ↔ numberOfDigits? (unsignedDigits key.toList) = some n := by
  rw [numberOfDigits?_eq_some_iff]
  constructor
  · rintro ⟨digits, h | h, hne, hall, hn⟩
    · have hunsigned : unsignedDigits key.toList = digits := by
        rw [h]
        unfold unsignedDigits
        split
        · exact absurd (hall '+' List.mem_cons_self) (by decide)
        · rfl
      rw [hunsigned]
      exact ⟨hne, hall, hn⟩
    · rw [h]
      exact ⟨hne, hall, hn⟩
  · rintro ⟨hne, hall, hn⟩
    refine ⟨unsignedDigits key.toList, ?_, hne, hall, hn⟩
    unfold unsignedDigits
    split
    · next h => exact .inr h
    · exact .inl rfl

theorem chainIdOfKey?_eq_some_iff {key : String} {id : UInt64} :
    chainIdOfKey? key = some id ↔ Denotes key id.toNat := by
  rw [denotes_iff]
  unfold chainIdOfKey?
  cases hn : numberOfDigits? (unsignedDigits key.toList) with
  | none => simp
  | some n =>
    dsimp only
    rw [Option.some.injEq]
    split
    · next hlt =>
      rw [Option.some.injEq, ← UInt64.toNat_inj, UInt64.toNat_ofNat', Nat.mod_eq_of_lt hlt]
    · next hge =>
      refine iff_of_false (by simp) ?_
      rintro rfl
      exact hge id.toNat_lt

theorem isChainId_iff {key : String} : IsChainId key ↔ ∃ id, chainIdOfKey? key = some id := by
  simp only [chainIdOfKey?_eq_some_iff]
  constructor
  · rintro ⟨n, hlt, hn⟩
    refine ⟨UInt64.ofNat n, ?_⟩
    rwa [UInt64.toNat_ofNat', Nat.mod_eq_of_lt hlt]
  · rintro ⟨id, hid⟩
    exact ⟨id.toNat, id.toNat_lt, hid⟩

/-! ## Keys in order -/

theorem lawfulTexts : Ordered.LawfulKeys String where
  irrefl := lt_irrefl
  trans := lt_trans
  connected := fun _ _ h hne => lt_of_le_of_ne (not_lt.1 h) hne.symm

theorem lawfulChainIds : Ordered.LawfulKeys UInt64 where
  irrefl := fun _ => UInt64.lt_irrefl _
  trans := UInt64.lt_trans
  connected := fun _ _ h hne => UInt64.lt_of_le_of_ne (UInt64.not_lt.1 h) hne.symm

namespace Address

/-- The chain id of a member with its address, or its key if that is no chain id. -/
def chainIdOfMember (p : String × String) : Except String (UInt64 × String) :=
  match chainIdOfKey? p.1 with
  | some id => .ok (id, p.2)
  | none => .error p.1

theorem chainIds_eq_mapM (ps : List (String × String)) :
    chainIds ps = ps.mapM chainIdOfMember := by
  induction ps with
  | nil => rfl
  | cons p ps ih =>
    rw [List.mapM_cons, ← ih, chainIds, chainIdOfMember]
    cases chainIdOfKey? p.1 with
    | none => rfl
    | some id => cases chainIds ps <;> rfl

theorem chainIdOfMember_eq_ok_iff {p : String × String} {q : UInt64 × String} :
    chainIdOfMember p = .ok q ↔ Denotes p.1 q.1.toNat ∧ p.2 = q.2 := by
  rw [← chainIdOfKey?_eq_some_iff, chainIdOfMember]
  cases chainIdOfKey? p.1 with
  | none => simp
  | some id => simp [Prod.ext_iff]

theorem exists_chainIdOfMember_iff {p : String × String} :
    (∃ q, chainIdOfMember p = .ok q) ↔ IsChainId p.1 := by
  rw [isChainId_iff, chainIdOfMember]
  cases chainIdOfKey? p.1 with
  | none => simp
  | some id => simp

theorem chainIdOfMember_eq_error_iff {p : String × String} {key : String} :
    chainIdOfMember p = .error key ↔ ¬ IsChainId p.1 ∧ p.1 = key := by
  rw [isChainId_iff, chainIdOfMember]
  cases chainIdOfKey? p.1 with
  | none => simp
  | some id => simp

/-- A key writes one number. -/
theorem eq_of_denotes {key : String} {id id' : UInt64} (h : Denotes key id.toNat)
    (h' : Denotes key id'.toNat) : id = id' :=
  Option.some.inj ((chainIdOfKey?_eq_some_iff.2 h).symm.trans (chainIdOfKey?_eq_some_iff.2 h'))

/-- A chain id is read if a key writes it. -/
theorem exists_mem_chainIds_iff {ps : List (String × String)} {qs : List (UInt64 × String)}
    (h : List.Forall₂ (fun p q => chainIdOfMember p = .ok q) ps qs) {id : UInt64} :
    (∃ q ∈ qs, q.1 = id) ↔ ∃ p ∈ ps, Denotes p.1 id.toNat := by
  induction h with
  | nil => simp
  | cons hq _ ih =>
    obtain ⟨hdenotes, -⟩ := chainIdOfMember_eq_ok_iff.1 hq
    rw [List.exists_mem_cons_iff, List.exists_mem_cons_iff, ih]
    refine or_congr_left ⟨fun hid => hid ▸ hdenotes, eq_of_denotes hdenotes⟩

/-- Of members from the greatest key down, the first one with a chain id counts. -/
theorem lookup_iff {ps : List (String × String)} (hps : ps.Pairwise fun p q => q.1 < p.1)
    {qs : List (UInt64 × String)}
    (h : List.Forall₂ (fun p q => chainIdOfMember p = .ok q) ps qs) {id : UInt64}
    {address : String} :
    qs.lookup id = some address ↔
      ∃ key, (key, address) ∈ ps ∧ Denotes key id.toNat ∧
        ∀ p ∈ ps, Denotes p.1 id.toNat → ¬ key < p.1 := by
  induction h with
  | nil => simp
  | @cons p q ps qs hq _ ih =>
    obtain ⟨key, a⟩ := p
    obtain ⟨id', a'⟩ := q
    obtain ⟨hdenotes, rfl⟩ : Denotes key id'.toNat ∧ a = a' := chainIdOfMember_eq_ok_iff.1 hq
    obtain ⟨hbelow, hrest⟩ := List.pairwise_cons.1 hps
    by_cases hid : id = id'
    · subst hid
      rw [List.lookup_cons_self, Option.some.injEq]
      constructor
      · rintro rfl
        refine ⟨key, List.mem_cons_self, hdenotes, List.forall_mem_cons.2 ⟨fun _ => ?_, ?_⟩⟩
        · exact lt_irrefl key
        · exact fun p hp _ => lt_asymm (hbelow p hp)
      · rintro ⟨greatest, hmem, -, habove⟩
        rcases List.mem_cons.1 hmem with heq | hmem
        · exact (Prod.ext_iff.1 heq).2.symm
        · exact absurd (hbelow _ hmem) (habove _ List.mem_cons_self hdenotes)
    · have hother : ¬ Denotes key id.toNat := fun h => hid (eq_of_denotes h hdenotes)
      rw [List.lookup_cons, beq_false_of_ne hid, ih hrest]
      refine exists_congr fun greatest => ?_
      rw [List.forall_mem_cons]
      constructor
      · rintro ⟨hmem, hgreatest, habove⟩
        exact ⟨List.mem_cons_of_mem _ hmem, hgreatest, fun h => absurd h hother, habove⟩
      · rintro ⟨hmem, hgreatest, -, habove⟩
        rcases List.mem_cons.1 hmem with heq | hmem
        · obtain ⟨rfl, -⟩ := Prod.ext_iff.1 heq
          exact absurd hgreatest hother
        · exact ⟨hmem, hgreatest, habove⟩

/-- Of members in order, the last one with a chain id is the one with the greatest key for it. -/
theorem lookup_reverse_iff {ps : List (String × String)} (hps : Ordered.Ascending ps)
    {qs : List (UInt64 × String)}
    (h : List.Forall₂ (fun p q => chainIdOfMember p = .ok q) ps qs) {id : UInt64}
    {address : String} :
    qs.reverse.lookup id = some address ↔
      ∃ key, (key, address) ∈ ps ∧ Denotes key id.toNat ∧
        ∀ p ∈ ps, Denotes p.1 id.toNat → ¬ key < p.1 := by
  rw [lookup_iff (List.pairwise_reverse.2 hps) (List.forall₂_reverse_iff.2 h)]
  simp only [List.mem_reverse]

/-! ## Objects of texts -/

theorem textMembers?_map (texts : List (String × String)) :
    textMembers? (texts.map fun p => (p.1, .text p.2)) = some texts := by
  induction texts with
  | nil => rfl
  | cons p texts ih => rw [List.map_cons, textMembers?, ih, Option.map_some]

end Address

/-- The object with a text under each key. -/
def Json.ofTexts (texts : List (String × String)) : Json :=
  .object (texts.map fun p => (p.1, .text p.2))

namespace Address

theorem ofJson_ofTexts (texts : List (String × String)) :
    ofJson (.ofTexts texts) =
      match (Ordered.ofList texts).mapM chainIdOfMember with
      | .error key => .error (.refused ("invalid chain id '" ++ key ++ "'"))
      | .ok pairs => .ok (.deployments (Deployments.ofList pairs)) := by
  rw [← chainIds_eq_mapM]
  cases h : chainIds (Ordered.ofList texts) <;>
    simp only [ofJson, Json.ofTexts, textMembers?_map, h]

theorem ofJson_ofTexts_eq_ok_iff {texts : List (String × String)} {a : Address} :
    ofJson (.ofTexts texts) = .ok a ↔
      ∃ pairs, List.Forall₂ (fun p q => chainIdOfMember p = .ok q) (Ordered.ofList texts) pairs ∧
        a = .deployments (Deployments.ofList pairs) := by
  rw [ofJson_ofTexts]
  simp only [← mapM_eq_ok_iff]
  cases (Ordered.ofList texts).mapM chainIdOfMember with
  | error key => simp
  | ok pairs => simp [eq_comm]

theorem exists_ofJson_ofTexts_iff {texts : List (String × String)} :
    (∃ a, ofJson (.ofTexts texts) = .ok a) ↔ ∀ p ∈ texts, IsChainId p.1 := by
  rw [← Ordered.forall_key_ofList_iff lawfulTexts]
  simp only [ofJson_ofTexts_eq_ok_iff, ← exists_chainIdOfMember_iff]
  rw [exists_comm, ← exists_mapM_eq_ok_iff]
  simp only [mapM_eq_ok_iff, exists_and_left, exists_eq, and_true]

theorem ofJson_ofTexts_eq_error_iff {texts : List (String × String)} {m : Json.Mismatch} :
    ofJson (.ofTexts texts) = .error m ↔
      ∃ key, (Ordered.ofList texts).mapM chainIdOfMember = .error key ∧
        m = .refused ("invalid chain id '" ++ key ++ "'") := by
  rw [ofJson_ofTexts]
  cases (Ordered.ofList texts).mapM chainIdOfMember with
  | error key => simp [eq_comm]
  | ok pairs => simp

variable {texts : List (String × String)} {pairs : List (UInt64 × String)} {id : UInt64}

/-- The chains that are mapped are those that a key writes. -/
theorem exists_mem_entries_iff
    (h : List.Forall₂ (fun p q => chainIdOfMember p = .ok q) (Ordered.ofList texts) pairs) :
    (∃ address, (id, address) ∈ (Deployments.ofList pairs).entries) ↔
      ∃ p ∈ texts, Denotes p.1 id.toNat :=
  calc (∃ address, (id, address) ∈ (Deployments.ofList pairs).entries)
    _ ↔ ∃ q ∈ pairs, q.1 = id := Ordered.exists_mem_ofList_iff lawfulChainIds
    _ ↔ ∃ p ∈ Ordered.ofList texts, Denotes p.1 id.toNat := exists_mem_chainIds_iff h
    _ ↔ ∃ p ∈ texts, Denotes p.1 id.toNat :=
      Ordered.exists_key_ofList_iff lawfulTexts (P := fun key => Denotes key id.toNat)

/-- A chain is mapped to the last text under the greatest key for it. -/
theorem mem_entries_iff
    (h : List.Forall₂ (fun p q => chainIdOfMember p = .ok q) (Ordered.ofList texts) pairs)
    {address : String} :
    (id, address) ∈ (Deployments.ofList pairs).entries ↔
      ∃ key, texts.reverse.lookup key = some address ∧ Denotes key id.toNat ∧
        ∀ p ∈ texts, Denotes p.1 id.toNat → ¬ key < p.1 := by
  have hgreatest : ∀ key, (∀ p ∈ Ordered.ofList texts, Denotes p.1 id.toNat → ¬ key < p.1) ↔
      ∀ p ∈ texts, Denotes p.1 id.toNat → ¬ key < p.1 := fun key =>
    Ordered.forall_key_ofList_iff lawfulTexts
      (P := fun other => Denotes other id.toNat → ¬ key < other)
  calc (id, address) ∈ (Deployments.ofList pairs).entries
    _ ↔ pairs.reverse.lookup id = some address := Ordered.mem_ofList_iff lawfulChainIds
    _ ↔ _ := lookup_reverse_iff (lawfulTexts.ascending_ofList texts) h
    _ ↔ _ := by
      simp only [hgreatest]
      simp only [Ordered.mem_ofList_iff lawfulTexts]

/-- Of keys in order, the first one that is no chain id is told, and it is the least. -/
theorem mapM_chainIdOfMember_eq_error {ps : List (String × String)} (hps : Ordered.Ascending ps)
    {key : String} (h : ps.mapM chainIdOfMember = .error key) :
    (∃ address, (key, address) ∈ ps) ∧ ¬ IsChainId key ∧
      ∀ p ∈ ps, ¬ IsChainId p.1 → ¬ p.1 < key := by
  obtain ⟨before, p, after, rfl, hbefore, hp⟩ := mapM_eq_error_iff.1 h
  obtain ⟨hbad, rfl⟩ := chainIdOfMember_eq_error_iff.1 hp
  refine ⟨⟨p.2, List.mem_append_right _ List.mem_cons_self⟩, hbad, fun other hother hotherBad => ?_⟩
  obtain ⟨-, hafter, -⟩ := List.pairwise_append.1 hps
  rcases List.mem_append.1 hother with hmem | hmem
  · exact absurd (exists_chainIdOfMember_iff.1 (hbefore other hmem)) hotherBad
  · rcases List.mem_cons.1 hmem with rfl | hmem
    · exact lt_irrefl _
    · exact lt_asymm ((List.pairwise_cons.1 hafter).1 other hmem)

end Address

/-! ## Texts that write a value -/

/-- A shape whose values come from a whole value reads a text as it reads the value that the text
writes; only the place where a mismatch was found is new, and it is not told. -/
theorem Json.Shape.read_derived {α : Type} {decode : Json → Except Json.Mismatch α} {text : String}
    {j : Json} (h : Json.ofText text = .ok j) :
    ((Json.Shape.derived decode).read text).mapError Json.Failure.message =
      (decode j).mapError Json.Mismatch.message := by
  unfold Json.ofText Json.wholeText at h
  unfold Json.Shape.read Json.wholeText Json.Shape.derived
  dsimp only
  cases hvalue : Json.value (Json.loopBound text) Json.depthBound (Json.Cursor.start text) with
  | error e => rw [hvalue] at h; cases h
  | ok r =>
    obtain ⟨v, k⟩ := r
    rw [hvalue] at h
    dsimp only at h ⊢
    split at h
    · next hend =>
      cases h
      cases decode j with
      | error m => rfl
      | ok a => simp only [hend, if_true]; rfl
    · cases h

/-! ## Deployments -/

/-- An object of texts is read as deployments just where all its keys are chain ids. Each chain
that a key writes is mapped to the text under the greatest key for it, the last one under that key,
and no other chain is mapped. Where the object is refused, the least key that is no chain id is
told. A text that writes the object is read in the same way. -/
theorem deployments_are_read_by_number (texts : List (String × String)) :
    ((∃ a, Address.ofJson (.ofTexts texts) = .ok a) ↔ ∀ p ∈ texts, IsChainId p.1) ∧
    (∀ a, Address.ofJson (.ofTexts texts) = .ok a →
      ∃ d : Deployments, a = .deployments d ∧
        (∀ id, (∃ address, (id, address) ∈ d.entries) ↔ ∃ p ∈ texts, Denotes p.1 id.toNat) ∧
        ∀ id address, (id, address) ∈ d.entries ↔
          ∃ key, texts.reverse.lookup key = some address ∧ Denotes key id.toNat ∧
            ∀ p ∈ texts, Denotes p.1 id.toNat → utf8 p.1 ≤ utf8 key) ∧
    (∀ m, Address.ofJson (.ofTexts texts) = .error m →
      ∃ key, m.message = "invalid chain id '" ++ key ++ "'" ∧ (∃ p ∈ texts, p.1 = key) ∧
        ¬ IsChainId key ∧ ∀ p ∈ texts, ¬ IsChainId p.1 → utf8 key ≤ utf8 p.1) ∧
    ∀ text, Json.ofText text = .ok (.ofTexts texts) →
      (Address.shape.read text).mapError Json.Failure.message =
        (Address.ofJson (.ofTexts texts)).mapError Json.Mismatch.message := by
  simp only [Text.utf8_le_iff]
  refine ⟨?_, ?_, ?_, fun text h => Json.Shape.read_derived h⟩
  · exact Address.exists_ofJson_ofTexts_iff
  · intro a ha
    obtain ⟨pairs, hpairs, rfl⟩ := Address.ofJson_ofTexts_eq_ok_iff.1 ha
    refine ⟨_, rfl, fun id => ?_, fun id address => ?_⟩
    · exact Address.exists_mem_entries_iff hpairs
    · exact Address.mem_entries_iff hpairs
  · intro m hm
    obtain ⟨key, hkey, rfl⟩ := Address.ofJson_ofTexts_eq_error_iff.1 hm
    obtain ⟨hmem, hbad, hleast⟩ :=
      Address.mapM_chainIdOfMember_eq_error (lawfulTexts.ascending_ofList texts) hkey
    refine ⟨key, rfl, (Ordered.exists_mem_ofList_iff lawfulTexts).1 hmem, hbad, ?_⟩
    exact (Ordered.forall_key_ofList_iff lawfulTexts
      (P := fun other => ¬ IsChainId other → ¬ other < key)).1 hleast

/-- Three keys for one chain, one of them twice. -/
def spellingsOfOne : List (String × String) :=
  [("1", "0xa"), ("01", "0xb"), ("+1", "0xc"), ("1", "0xd")]

theorem the_greatest_key_for_a_chain_counts :
    Json.ofText "\x7b\"1\": \"0xa\", \"01\": \"0xb\", \"+1\": \"0xc\", \"1\": \"0xd\"\x7d" =
      .ok (.ofTexts spellingsOfOne) ∧
    ∃ d : Deployments, Address.ofJson (.ofTexts spellingsOfOne) = .ok (.deployments d) ∧
      (1, "0xd") ∈ d.entries := by
  have hone : ∀ p ∈ spellingsOfOne, Denotes p.1 1 := by
    simp only [denotes_iff]
    decide
  have hgreatest : ∀ p ∈ spellingsOfOne, utf8 p.1 ≤ utf8 "1" := by decide
  obtain ⟨hsome, hentries, -⟩ := deployments_are_read_by_number spellingsOfOne
  obtain ⟨a, ha⟩ := hsome.2 fun p hp => ⟨1, by decide, hone p hp⟩
  obtain ⟨d, rfl, -, hd⟩ := hentries a ha
  refine ⟨by cbv, d, ha, (hd 1 "0xd").2 ⟨"1", by decide, hone ("1", "0xa") (by decide), ?_⟩⟩
  exact fun p hp _ => hgreatest p hp

end ContractHooks
