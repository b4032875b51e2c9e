-- String literals between single quotes, as JavaScript reads them. The value of a literal is a list
-- of code units of sixteen bits. A text between quotes has itself as its value just where it has
-- no character that the language gives a meaning there.
import ContractHooks.Text.Hex
import Mathlib.Data.List.Basic

namespace ContractHooks.Text

/-! ## Code units -/

/-- The code units of a code point. -/
def units (n : Nat) : List Nat :=
  if n < 0x10000 then [n]
  else [0xD800 + (n - 0x10000) / 0x400, 0xDC00 + (n - 0x10000) % 0x400]

/-- The code units of characters. -/
def codeUnits (cs : List Char) : List Nat := cs.flatMap fun c => units c.toNat

@[simp] theorem codeUnits_cons (c : Char) (cs : List Char) :
    codeUnits (c :: cs) = units c.toNat ++ codeUnits cs := rfl

@[simp] theorem codeUnits_append (a b : List Char) :
    codeUnits (a ++ b) = codeUnits a ++ codeUnits b := List.flatMap_append

theorem length_units (n : Nat) : 1 ≤ (units n).length ∧ (units n).length ≤ 2 := by
  unfold units
  split <;> simp

theorem length_le_codeUnits (cs : List Char) : cs.length ≤ (codeUnits cs).length := by
  induction cs with
  | nil => exact Nat.le_refl 0
  | cons c cs ih =>
    have hc := (length_units c.toNat).1
    simp only [codeUnits_cons, List.length_cons, List.length_append]
    omega

/-! ## Literals -/

/-- The characters that a single one stands for behind a backslash. -/
def singleEscapes : List (Char × Nat) :=
  [('\'', 0x27), ('"', 0x22), ('\\', 0x5C), ('b', 0x08), ('f', 0x0C), ('n', 0x0A), ('r', 0x0D),
   ('t', 0x09), ('v', 0x0B)]

/-- The ends of lines. Behind a backslash they stand for nothing. -/
def lineEnds : List (List Char) :=
  [['\n'], ['\r'], ['\r', '\n'], [Char.ofNat 0x2028], [Char.ofNat 0x2029]]

/-- Whether a character stands for itself behind a backslash. -/
def standsForItself (c : Char) : Bool :=
  decide (c ∉ singleEscapes.map Prod.fst) && !c.isDigit && decide (c ∉ ['x', 'u']) &&
    decide (c ∉ lineEnds.flatten)

/-- The number of hexadecimal digits behind those of a number. -/
def hexNumber? (n : Nat) : List Char → Option Nat
  | [] => some n
  | c :: cs =>
    match hexValue? c with
    | some d => hexNumber? (16 * n + d) cs
    | none => none

/-- What stands behind a backslash, and the code units that it stands for. -/
inductive Escape : List Char → List Nat → Prop
  | single {c : Char} {n : Nat} (h : (c, n) ∈ singleEscapes) : Escape [c] [n]
  | itself {c : Char} (h : standsForItself c = true) : Escape [c] (units c.toNat)
  | null : Escape ['0'] [0]
  | hex {ds : List Char} {n : Nat} (h : hexNumber? 0 ds = some n) (hlen : ds.length = 2) :
    Escape ('x' :: ds) [n]
  | unit {ds : List Char} {n : Nat} (h : hexNumber? 0 ds = some n) (hlen : ds.length = 4) :
    Escape ('u' :: ds) [n]
  | point {ds : List Char} {n : Nat} (h : hexNumber? 0 ds = some n) (hne : ds ≠ [])
    (hn : n ≤ 0x10FFFF) : Escape ('u' :: '\x7b' :: (ds ++ ['\x7d'])) (units n)
  | lineEnd {es : List Char} (h : es ∈ lineEnds) : Escape es []

/-- The characters that do not stand for themselves between the quotes. -/
def meaningful : List Char := ['\'', '\\', '\n', '\r']

/-- The text has only characters that stand for themselves between the quotes. -/
def Unmarked (text : String) : Prop := ∀ c ∈ text.toList, c ∉ meaningful

instance (text : String) : Decidable (Unmarked text) := List.decidableBAll _ _

/-- What stands between the quotes of a literal, and the code units of its value. The sign for
the zero unit has no digit behind it. -/
inductive LiteralBody : List Char → List Nat → Prop
  | nil : LiteralBody [] []
  | plain {c : Char} {cs : List Char} {us : List Nat} (hc : c ∉ meaningful)
    (h : LiteralBody cs us) : LiteralBody (c :: cs) (units c.toNat ++ us)
  | escape {es cs : List Char} {v us : List Nat} (he : Escape es v)
    (hnext : es = ['0'] → cs.head?.any Char.isDigit = false) (h : LiteralBody cs us) :
    LiteralBody ('\\' :: (es ++ cs)) (v ++ us)

/-- The text is a literal between single quotes with the given value. -/
def IsLiteral (text : String) (value : List Nat) : Prop :=
  ∃ cs, text.toList = '\'' :: (cs ++ ['\'']) ∧ LiteralBody cs value

/-! ## Lengths -/

theorem Escape.length_le {es : List Char} {v : List Nat} (h : Escape es v) :
    v.length ≤ (codeUnits es).length := by
  have hes := length_le_codeUnits es
  cases h with
  | single h => exact hes
  | itself h => simp
  | null => exact hes
  | hex h hlen =>
    simp only [List.length_cons, List.length_nil] at hes ⊢
    omega
  | unit h hlen =>
    simp only [List.length_cons, List.length_nil] at hes ⊢
    omega
  | @point _ n h hne hn =>
    have hunits := (length_units n).2
    simp only [List.length_cons, List.length_append] at hes ⊢
    omega
  | lineEnd h => simp

/-- A value has at most as many code units as what it is written with, and fewer if there is a
backslash. -/
theorem LiteralBody.length_le {cs : List Char} {us : List Nat} (h : LiteralBody cs us) :
    us.length ≤ (codeUnits cs).length ∧ ('\\' ∈ cs → us.length < (codeUnits cs).length) := by
  induction h with
  | nil => exact ⟨Nat.le_refl 0, fun hmem => absurd hmem List.not_mem_nil⟩
  | plain hc _ ih =>
    obtain ⟨hle, hlt⟩ := ih
    simp only [codeUnits_cons, List.length_append, List.mem_cons]
    refine ⟨by omega, ?_⟩
    rintro (rfl | hmem)
    · exact absurd (by decide) hc
    · have := hlt hmem
      omega
  | escape he _ _ ih =>
    have hv := he.length_le
    have hmark : (units '\\'.toNat).length = 1 := rfl
    simp only [codeUnits_cons, codeUnits_append, List.length_append, hmark]
    exact ⟨by omega, fun _ => by omega⟩

/-! ## Quotes -/

theorem quote_notMem_of_hexNumber? {m n : Nat} {ds : List Char} (h : hexNumber? m ds = some n) :
    '\'' ∉ ds := by
  induction ds generalizing m with
  | nil => exact List.not_mem_nil
  | cons c cs ih =>
    unfold hexNumber? at h
    split at h
    · next d hd =>
      rw [List.mem_cons, not_or]
      refine ⟨?_, ih h⟩
      rintro rfl
      have hnone : hexValue? '\'' = none := by decide
      rw [hnone] at hd
      cases hd
    · cases h

/-- A quote behind a backslash stands for itself. -/
theorem Escape.quote {es : List Char} {v : List Nat} (h : Escape es v) (hq : '\'' ∈ es) :
    es = ['\''] ∧ v = [0x27] := by
  cases h with
  | single h =>
    obtain rfl := List.mem_singleton.1 hq
    have hsingle : ∀ e ∈ singleEscapes, e.1 = '\'' → e.2 = 0x27 := by decide
    have hn := hsingle _ h rfl
    exact ⟨rfl, congrArg (fun n => [n]) hn⟩
  | itself h =>
    obtain rfl := List.mem_singleton.1 hq
    exact absurd h (by decide)
  | null => exact absurd hq (by decide)
  | hex h hlen =>
    exact absurd hq (by simp [quote_notMem_of_hexNumber? h])
  | unit h hlen =>
    exact absurd hq (by simp [quote_notMem_of_hexNumber? h])
  | point h hne hn =>
    exact absurd hq (by simp [quote_notMem_of_hexNumber? h])
  | lineEnd h =>
    have hends : ∀ es ∈ lineEnds, '\'' ∉ es := by decide
    exact absurd hq (hends es h)

/-- A quote between the quotes of a literal is a quote of its value. It stands behind a backslash,
so that in the value it comes up earlier. -/
theorem LiteralBody.quote {cs : List Char} {us : List Nat} (h : LiteralBody cs us)
    {a b : List Char} (hcs : cs = a ++ '\'' :: b) :
    ∃ ua ub, us = ua ++ 0x27 :: ub ∧ ua.length < (codeUnits a).length := by
  induction h generalizing a with
  | nil => cases a <;> cases hcs
  | @plain c cs us hc _ ih =>
    cases a with
    | nil =>
      obtain ⟨rfl, -⟩ := List.cons.inj hcs
      exact absurd (by decide) hc
    | cons d a =>
      obtain ⟨rfl, hrest⟩ := List.cons.inj hcs
      obtain ⟨ua, ub, rfl, hlt⟩ := ih hrest
      refine ⟨units c.toNat ++ ua, ub, by rw [List.append_assoc], ?_⟩
      simp only [codeUnits_cons, List.length_append]
      omega
  | @escape es cs v us he _ _ ih =>
    cases a with
    | nil => cases hcs
    | cons d a =>
      obtain ⟨rfl, hrest⟩ := List.cons.inj hcs
      have hmark : (units '\\'.toNat).length = 1 := rfl
      -- The quote is in the escape, or behind it.
      rcases List.append_eq_append_iff.1 hrest with ⟨a', rfl, hcs'⟩ | ⟨b', rfl, hb⟩
      · obtain ⟨ua, ub, rfl, hlt⟩ := ih hcs'
        have hv := he.length_le
        refine ⟨v ++ ua, ub, by rw [List.append_assoc], ?_⟩
        simp only [codeUnits_cons, codeUnits_append, List.length_append, hmark]
        omega
      · cases b' with
        | nil =>
          obtain ⟨ua, ub, rfl, hlt⟩ := ih (a := []) hb.symm
          cases hlt
        | cons e b' =>
          obtain ⟨rfl, -⟩ := List.cons.inj hb
          obtain ⟨hes, rfl⟩ := he.quote (by simp)
          refine ⟨[], us, rfl, ?_⟩
          simp only [codeUnits_cons, List.length_append, hmark, List.length_nil]
          omega

/-- No other character has the code unit of a quote. -/
theorem exists_of_codeUnits_eq {cs : List Char} {ua ub : List Nat}
    (h : codeUnits cs = ua ++ 0x27 :: ub) :
    ∃ a b, cs = a ++ '\'' :: b ∧ codeUnits a = ua := by
  induction cs generalizing ua with
  | nil => cases ua <;> cases h
  | cons c cs ih =>
    have hquote (hc : c.toNat = 0x27) : c = '\'' := by
      rw [← Char.ofNat_toNat c, hc]
    rw [codeUnits_cons] at h
    have behind (ua' : List Nat) (hua : ua = units c.toNat ++ ua')
        (hcs : codeUnits cs = ua' ++ 0x27 :: ub) : ∃ a b, c :: cs = a ++ '\'' :: b ∧
          codeUnits a = ua := by
      obtain ⟨a, b, rfl, rfl⟩ := ih hcs
      exact ⟨c :: a, b, rfl, hua.symm⟩
    rcases List.append_eq_append_iff.1 h with ⟨ua', hua, hcs⟩ | ⟨rest, hunits, hrest⟩
    · exact behind _ hua hcs
    · cases rest with
      | nil => exact behind [] (by simpa using hunits.symm) (by simpa using hrest.symm)
      | cons u rest =>
        obtain ⟨rfl, -⟩ := List.cons.inj hrest
        unfold units at hunits
        split at hunits
        · cases ua with
          | nil =>
            obtain ⟨hc, -⟩ := List.cons.inj hunits
            exact ⟨[], cs, by rw [hquote hc]; rfl, rfl⟩
          | cons v ua => simp at hunits
        · have hmem : 0x27 ∈ ua ++ 0x27 :: rest := by simp
          rw [← hunits] at hmem
          simp only [List.mem_cons, List.not_mem_nil, or_false] at hmem
          omega

/-- A literal whose value is what it starts with has no quote inside, as the first of them would
have another before it. -/
theorem LiteralBody.quote_notMem {w x : List Char} (h : LiteralBody (w ++ x) (codeUnits w)) :
    '\'' ∉ w ++ x := by
  have hnone : ∀ n a b, (codeUnits a).length = n → w ++ x = a ++ '\'' :: b → False := by
    intro n
    induction n using Nat.strongRecOn with
    | ind n ih =>
      intro a b hn hcs
      obtain ⟨ua, ub, hunits, hlt⟩ := h.quote hcs
      obtain ⟨a', b', hw, rfl⟩ := exists_of_codeUnits_eq hunits
      refine ih _ (hn ▸ hlt) a' (b' ++ x) rfl ?_
      rw [hw, List.append_assoc, List.cons_append]
  intro hmem
  obtain ⟨a, b, hcs⟩ := List.append_of_mem hmem
  exact hnone _ a b rfl hcs

/-! ## Quoted texts -/

theorem LiteralBody.of_plain {cs : List Char} (h : ∀ c ∈ cs, c ∉ meaningful) :
    LiteralBody cs (codeUnits cs) := by
  induction cs with
  | nil => exact .nil
  | cons c cs ih =>
    exact .plain (h c List.mem_cons_self) (ih fun d hd => h d (List.mem_cons_of_mem c hd))

/-- Without a backslash every character between the quotes stands for itself. -/
theorem LiteralBody.plain_of_notMem {cs : List Char} {us : List Nat} (h : LiteralBody cs us)
    (hback : '\\' ∉ cs) : ∀ c ∈ cs, c ∉ meaningful := by
  induction h with
  | nil => exact fun c hc => absurd hc List.not_mem_nil
  | plain hc _ ih =>
    intro d hd
    rcases List.mem_cons.1 hd with rfl | hd
    · exact hc
    · exact ih (fun hm => hback (List.mem_cons_of_mem _ hm)) d hd
  | escape => exact absurd List.mem_cons_self hback

/-- A text between quotes, whatever comes behind, starts a literal that has the text as its value
just where each of its characters stands for itself. -/
theorem isLiteral_iff (name behind : String) :
    (∃ literal rest, "'" ++ name ++ "'" ++ behind = literal ++ rest ∧
      IsLiteral literal (codeUnits name.toList)) ↔ Unmarked name := by
  unfold Unmarked
  constructor
  · rintro ⟨literal, rest, htext, cs, hliteral, hbody⟩
    have hlists : name.toList ++ '\'' :: behind.toList = cs ++ '\'' :: rest.toList := by
      have htext := congrArg String.toList htext
      simpa [hliteral] using htext
    -- The literal ends where the text does, or else before or behind its end.
    rcases List.append_eq_append_iff.1 hlists with ⟨x, rfl, hx⟩ | ⟨x, hname, hx⟩
    · have hquote := hbody.quote_notMem
      cases x with
      | nil =>
        rw [List.append_nil] at hbody
        exact hbody.plain_of_notMem fun hback => Nat.lt_irrefl _ (hbody.length_le.2 hback)
      | cons c x =>
        obtain ⟨rfl, -⟩ := List.cons.inj hx
        exact absurd (by simp) hquote
    · rw [hname] at hbody ⊢
      have hle := hbody.length_le
      cases x with
      | nil =>
        rw [List.append_nil] at hbody hle ⊢
        exact hbody.plain_of_notMem fun hback => Nat.lt_irrefl _ (hle.2 hback)
      | cons c x =>
        have hx := length_le_codeUnits (c :: x)
        simp only [codeUnits_append, List.length_append, List.length_cons] at hle hx
        omega
  · intro h
    exact ⟨"'" ++ name ++ "'", behind, rfl, name.toList, by simp, .of_plain h⟩

end ContractHooks.Text
