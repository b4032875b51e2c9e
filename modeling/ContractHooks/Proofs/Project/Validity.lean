-- Which projects are valid: those with a contract at least, of which every one has a name that shows
-- and no text for an address that is none. Of a project that is not, the first contract that offends
-- is told, its name before its addresses, and of these the one on the least chain.
import ContractHooks.Project.Basic
import ContractHooks.Proofs.Contract.Deployments
import ContractHooks.Proofs.Results
import Mathlib.Data.String.Basic

namespace ContractHooks

/-! ## Hexadecimal digits -/

namespace Text

/-- The characters that are hexadecimal digits, of either case. -/
def HexDigit (c : Char) : Prop :=
  ('0' ≤ c ∧ c ≤ '9') ∨ ('a' ≤ c ∧ c ≤ 'f') ∨ ('A' ≤ c ∧ c ≤ 'F')

theorem exists_hexValue?_iff {c : Char} : (∃ n, hexValue? c = some n) ↔ HexDigit c := by
  unfold hexValue? HexDigit
  split
  · next h => simp [h]
  · next h =>
    split
    · next h' => simp [h']
    · next h' =>
      split
      · next h'' => simp [h'']
      · next h'' => simp [h, h', h'']

theorem HexDigit.utf8Size {c : Char} (h : HexDigit c) : c.utf8Size = 1 := by
  have hlast : c ≤ 'f' := by
    rcases h with ⟨-, h⟩ | ⟨-, h⟩ | ⟨-, h⟩
    · exact h.trans (by decide)
    · exact h
    · exact h.trans (by decide)
  exact Char.utf8Size_eq_one_iff.2 (UInt32.le_trans hlast (by decide))

/-- A digit takes one byte. -/
theorem utf8Len_of_hexDigits {cs : List Char} (h : ∀ c ∈ cs, HexDigit c) :
    String.utf8Len cs = cs.length := by
  induction cs with
  | nil => rfl
  | cons c cs ih =>
    obtain ⟨hc, hcs⟩ := List.forall_mem_cons.1 h
    rw [String.utf8Len_cons, ih hcs, hc.utf8Size, List.length_cons]

/-- Bytes are read from hexadecimal digits, where their number is even. -/
theorem exists_bytesOfHex?_iff (cs : List Char) :
    (∃ bs, bytesOfHex? cs = some bs) ↔ cs.length % 2 = 0 ∧ ∀ c ∈ cs, HexDigit c := by
  induction cs using bytesOfHex?.induct with
  | case1 => simp [bytesOfHex?]
  | case2 c => simp [bytesOfHex?]
  | case3 a b rest ih =>
    have hlength : (a :: b :: rest).length % 2 = rest.length % 2 := by
      simp only [List.length_cons]
      omega
    rw [hlength, List.forall_mem_cons, List.forall_mem_cons, and_left_comm,
      and_left_comm (a := rest.length % 2 = 0), ← ih, ← exists_hexValue?_iff,
      ← exists_hexValue?_iff, bytesOfHex?]
    simp only [Option.bind_eq_bind, Option.bind_eq_some_iff, Option.some.injEq]
    constructor
    · rintro ⟨-, high, hhigh, low, hlow, bs, hbs, -⟩
      exact ⟨⟨high, hhigh⟩, ⟨low, hlow⟩, bs, hbs⟩
    · rintro ⟨⟨high, hhigh⟩, ⟨low, hlow⟩, bs, hbs⟩
      exact ⟨_, high, hhigh, low, hlow, bs, hbs, rfl⟩

end Text

/-! ## Addresses -/

namespace Project

/-- The text is an address: `0x` and forty hexadecimal digits. -/
def IsAddressText (s : String) : Prop :=
  ∃ digits, s.toList = '0' :: 'x' :: digits ∧ digits.length = 40 ∧ ∀ c ∈ digits, Text.HexDigit c

/-- Forty bytes of which every two are digits of a byte are forty digits. -/
theorem isAddress_iff {s : String} : isAddress s = true ↔ IsAddressText s := by
  have hdigits (cs : List Char) : ((String.ofList cs).utf8ByteSize == 40 &&
      (Text.bytesOfHex? cs).isSome) = true ↔ cs.length = 40 ∧ ∀ c ∈ cs, Text.HexDigit c := by
    rw [Bool.and_eq_true, beq_iff_eq, Option.isSome_iff_exists, Text.exists_bytesOfHex?_iff,
      String.utf8ByteSize_ofList]
    constructor
    · rintro ⟨hbytes, -, hall⟩
      exact ⟨Text.utf8Len_of_hexDigits hall ▸ hbytes, hall⟩
    · rintro ⟨hlength, hall⟩
      exact ⟨(Text.utf8Len_of_hexDigits hall).trans hlength, by rw [hlength], hall⟩
  unfold isAddress IsAddressText
  split
  · next digits hs =>
    rw [hdigits, hs]
    simp
  · next hs =>
    refine iff_of_false (by simp) ?_
    rintro ⟨digits, hdigits, -⟩
    exact hs digits hdigits

variable {contract : String} {texts : List String} {error : Error}

/-- Refuses a text that is no address. -/
def checkAddress (contract s : String) : Except Error Unit :=
  if isAddress s then .ok () else .error (.invalidAddress contract s)

theorem checkAddress_eq_ok_iff {s : String} :
    checkAddress contract s = .ok () ↔ IsAddressText s := by
  rw [← isAddress_iff]
  unfold checkAddress
  split
  · next h => simp [h]
  · next h => simp [h]

theorem checkAddress_eq_error_iff {s : String} :
    checkAddress contract s = .error error ↔
      ¬ IsAddressText s ∧ error = .invalidAddress contract s := by
  rw [← isAddress_iff]
  unfold checkAddress
  split
  · next h => simp [h]
  · next h => simp [h, eq_comm]

theorem checkAddresses_cons (contract s : String) (rest : List String) :
    checkAddresses contract (s :: rest) =
      checkAddress contract s >>= fun _ => checkAddresses contract rest := by
  rw [checkAddresses, checkAddress]
  split <;> rfl

theorem checkAddresses_eq_ok_iff :
    checkAddresses contract texts = .ok () ↔ ∀ s ∈ texts, IsAddressText s := by
  rw [checkAll_eq_ok_iff rfl (checkAddresses_cons contract)]
  simp only [checkAddress_eq_ok_iff]

theorem checkAddresses_eq_error_iff :
    checkAddresses contract texts = .error error ↔
      ∃ before s after, texts = before ++ s :: after ∧ (∀ t ∈ before, IsAddressText t) ∧
        ¬ IsAddressText s ∧ error = .invalidAddress contract s := by
  rw [checkAll_eq_error_iff rfl (checkAddresses_cons contract)]
  simp only [checkAddress_eq_ok_iff, checkAddress_eq_error_iff]

end Project

/-! ## Entries -/

/-- The texts of an address: the one, or one for each chain. -/
inductive Address.Has : Address → String → Prop
  | single {s : String} : Has (.single s) s
  | deployed {d : Deployments} {id : UInt64} {s : String} (h : (id, s) ∈ d.entries) :
    Has (.deployments d) s

namespace Entry

open Project (IsAddressText addressTexts checkAddresses)

/-- The name has a character that shows. -/
def IsNamed (e : Entry) : Prop := ∃ c ∈ e.name.toList, Text.isBlank c = false

/-- The entry has a name that shows, and its texts for addresses are addresses. -/
structure IsValid (e : Entry) : Prop where
  named : e.IsNamed
  addressed : ∀ a, e.address = some a → ∀ s, a.Has s → IsAddressText s

/-- What is wrong with an entry, as it is told: its name, or else a text for its address, of several
the one for the least chain. -/
inductive Offends : Entry → Error → Prop
  | unnamed {e : Entry} (h : ¬ e.IsNamed) : Offends e .unnamedContract
  | single {e : Entry} {s : String} (hname : e.IsNamed) (h : e.address = some (.single s))
    (hs : ¬ IsAddressText s) : Offends e (.invalidAddress e.name s)
  | deployed {e : Entry} {d : Deployments} {id : UInt64} {s : String} (hname : e.IsNamed)
    (h : e.address = some (.deployments d)) (hmem : (id, s) ∈ d.entries) (hs : ¬ IsAddressText s)
    (hleast : ∀ q ∈ d.entries, ¬ IsAddressText q.2 → id ≤ q.1) :
    Offends e (.invalidAddress e.name s)

theorem isNamed_iff {e : Entry} : e.IsNamed ↔ Text.isAllBlank e.name = false := by
  unfold IsNamed Text.isAllBlank
  rw [List.all_eq_false]
  simp only [Bool.not_eq_true]

theorem mem_addressTexts_iff {a : Address} {s : String} :
    s ∈ addressTexts (some a) ↔ a.Has s := by
  cases a with
  | single t =>
    refine ⟨fun h => List.mem_singleton.1 h ▸ .single, fun h => ?_⟩
    cases h
    exact List.mem_singleton_self _
  | deployments d =>
    constructor
    · intro h
      obtain ⟨p, hp, rfl⟩ := List.mem_map.1 h
      exact .deployed hp
    · intro h
      cases h with
      | deployed h => exact List.mem_map_of_mem h

/-- Refuses an entry without a name or with a text that is no address. -/
def check (e : Entry) : Except Error Unit :=
  if Text.isAllBlank e.name then .error .unnamedContract
  else checkAddresses e.name (addressTexts e.address)

theorem check_eq_ok_iff {e : Entry} : e.check = .ok () ↔ e.IsValid := by
  have haddressed : checkAddresses e.name (addressTexts e.address) = .ok () ↔
      ∀ a, e.address = some a → ∀ s, a.Has s → IsAddressText s := by
    rw [Project.checkAddresses_eq_ok_iff]
    cases e.address with
    | none => simp [addressTexts]
    | some a => simp [mem_addressTexts_iff]
  unfold check
  cases hblank : Text.isAllBlank e.name with
  | true =>
    refine iff_of_false (by simp) fun h => ?_
    rw [isNamed_iff.1 h.named] at hblank
    cases hblank
  | false =>
    rw [if_neg (by simp), haddressed]
    exact ⟨fun h => ⟨isNamed_iff.2 hblank, h⟩, IsValid.addressed⟩

/-- A text that is told is the first one of those of the address. -/
theorem offends_iff_of_isNamed {e : Entry} (hname : e.IsNamed) {error : Error} :
    e.Offends error ↔ checkAddresses e.name (addressTexts e.address) = .error error := by
  rw [Project.checkAddresses_eq_error_iff]
  constructor
  · intro h
    cases h with
    | unnamed h => exact absurd hname h
    | single _ h hs => exact ⟨[], _, [], by rw [h]; rfl, by simp, hs, rfl⟩
    | @deployed d id s _ h hmem hs hleast =>
      obtain ⟨before, after, htexts, hbefore, -⟩ := (Ordered.first_iff_least lawfulChainIds
        d.ascending).2 ⟨id, hmem, hs, fun q hq hbad => UInt64.not_lt.2 (hleast q hq hbad)⟩
      exact ⟨before, s, after, by rw [h]; exact htexts, hbefore, hs, rfl⟩
  · rintro ⟨before, s, after, htexts, hbefore, hs, rfl⟩
    match h : e.address with
    | none => simp [h, addressTexts] at htexts
    | some (.single t) =>
      rw [h] at htexts
      have hmem : s ∈ addressTexts (some (.single t)) := htexts ▸ by simp
      exact .single hname (List.mem_singleton.1 hmem ▸ h) hs
    | some (.deployments d) =>
      rw [h] at htexts
      obtain ⟨id, hmem, -, hleast⟩ := (Ordered.first_iff_least lawfulChainIds d.ascending).1
        ⟨before, after, htexts, hbefore, hs⟩
      exact .deployed hname h hmem hs fun q hq hbad => UInt64.not_lt.1 (hleast q hq hbad)

theorem check_eq_error_iff {e : Entry} {error : Error} :
    e.check = .error error ↔ e.Offends error := by
  unfold check
  cases hblank : Text.isAllBlank e.name with
  | true =>
    have hname : ¬ e.IsNamed := by rw [isNamed_iff, hblank]; simp
    rw [if_pos rfl, Except.error.injEq]
    constructor
    · rintro rfl
      exact .unnamed hname
    · intro h
      cases h with
      | unnamed => rfl
      | single h => exact absurd h hname
      | deployed h => exact absurd h hname
  | false => rw [if_neg (by simp), offends_iff_of_isNamed (isNamed_iff.2 hblank)]

theorem checkEntries_cons (e : Entry) (rest : List Entry) :
    Project.checkEntries (e :: rest) = e.check >>= fun _ => Project.checkEntries rest := by
  rw [Project.checkEntries, check]
  split
  · rfl
  · cases checkAddresses e.name (addressTexts e.address) <;> rfl

end Entry

/-! ## Projects -/

namespace Project

/-- A project is valid just where it has an entry and each of its entries has a name that shows and
no text for an address that is not `0x` and forty hexadecimal digits. Otherwise it is told that it
has no entry, or what is wrong with the first one that offends. -/
theorem a_project_is_valid_just_where_its_entries_are (p : Project) :
    (p.validate = .ok () ↔ p.entries ≠ [] ∧ ∀ e ∈ p.entries, e.IsValid) ∧
    ∀ error, p.validate = .error error ↔
      (p.entries = [] ∧ error = .noContracts) ∨
      ∃ before e after, p.entries = before ++ e :: after ∧ (∀ b ∈ before, b.IsValid) ∧
        e.Offends error := by
  unfold validate
  cases hentries : p.entries with
  | nil => simp [eq_comm]
  | cons e rest =>
    rw [← hentries]
    have hne : p.entries ≠ [] := by simp [hentries]
    rw [if_neg (by simpa using hne)]
    simp only [hne, ne_eq, not_false_eq_true, true_and, false_and, false_or]
    rw [checkAll_eq_ok_iff rfl Entry.checkEntries_cons]
    simp only [checkAll_eq_error_iff rfl Entry.checkEntries_cons, Entry.check_eq_ok_iff,
      Entry.check_eq_error_iff, implies_true, and_true]

end Project

end ContractHooks
