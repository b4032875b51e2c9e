-- What signatures tell. A tuple is closed by a bracket of its own and two types are parted by a
-- comma, so that a spelled type ends where the first bracket or comma outside it stands. Where names
-- and types are plain words, a signature therefore tells its name and the shapes of its inputs, and
-- two entries of one group whose inputs differ in shape have different signatures.
import ContractHooks.Proofs.Abi.Outline
import ContractHooks.Proofs.Abi.Spelling

namespace ContractHooks.Abi

/-! ## Shapes -/

/-- The shape of a parameter: a tuple with the shapes of its components and what follows `tuple` in
its type, or the type as it stands. -/
inductive Shape
  | word (type : String)
  | tuple (components : List Shape) (suffix : String)
  deriving Repr

mutual

/-- The shape of a parameter. Components count only where the type is a tuple. -/
def Parameter.shape : Parameter → Shape
  | ⟨_, type, _, some components, _⟩ =>
    match tupleSuffix? type with
    | some suffix => .tuple (shapes components) suffix
    | none => .word type
  | ⟨_, type, _, none, _⟩ => .word type

/-- The shapes of parameters. -/
def shapes : List Parameter → List Shape
  | [] => []
  | p :: ps => p.shape :: shapes ps

end

mutual

/-- The text of a shape in a signature. -/
def Shape.text : Shape → String
  | .word type => type
  | .tuple components suffix =>
    "(" ++ String.intercalate "," (Shape.texts components) ++ ")" ++ suffix

/-- The texts of shapes. -/
def Shape.texts : List Shape → List String
  | [] => []
  | s :: ss => s.text :: Shape.texts ss

end

mutual

/-- A parameter is spelled by its shape. -/
theorem Parameter.text_shape (p : Parameter) : p.shape.text = p.canonicalType := by
  match p with
  | ⟨_, type, _, none, _⟩ => rfl
  | ⟨_, type, _, some components, _⟩ =>
    rw [Parameter.shape, Parameter.canonicalType]
    cases tupleSuffix? type with
    | none => rfl
    | some suffix => rw [Shape.text, texts_shapes components]

theorem texts_shapes (ps : List Parameter) : Shape.texts (shapes ps) = canonicalTypes ps := by
  match ps with
  | [] => rfl
  | p :: ps => rw [shapes, Shape.texts, canonicalTypes, p.text_shape, texts_shapes ps]

end

/-! ## Plain words -/

/-- The characters that a signature sets between types. -/
def delimiters : List Char := ['(', ')', ',']

/-- A type that is not empty and has no bracket and no comma in it. -/
structure IsWord (type : String) : Prop where
  ne_empty : type ≠ ""
  plain : ∀ c ∈ type.toList, c ∉ delimiters

instance (type : String) : Decidable (IsWord type) :=
  decidable_of_iff (type ≠ "" ∧ type.toList.all (fun c => decide (c ∉ delimiters)) = true)
    ⟨fun h => ⟨h.1, by simpa using h.2⟩, fun h => ⟨h.ne_empty, by simpa using h.plain⟩⟩

mutual

/-- The types of a parameter and of its components, at every depth. -/
def Parameter.types : Parameter → List String
  | ⟨_, type, _, some components, _⟩ => type :: typesOf components
  | ⟨_, type, _, none, _⟩ => [type]

/-- The types of parameters and of their components, at every depth. -/
def typesOf : List Parameter → List String
  | [] => []
  | p :: ps => p.types ++ typesOf ps

end

mutual

/-- The words and the suffixes of the shape have no bracket and no comma, and no word is empty. -/
def Shape.Plain : Shape → Prop
  | .word type => IsWord type
  | .tuple components suffix =>
    Shape.AllPlain components ∧ ∀ c ∈ suffix.toList, c ∉ delimiters

/-- The shapes are plain. -/
def Shape.AllPlain : List Shape → Prop
  | [] => True
  | s :: ss => s.Plain ∧ Shape.AllPlain ss

end

mutual

theorem Parameter.plain_shape (p : Parameter) (h : ∀ t ∈ p.types, IsWord t) : p.shape.Plain := by
  match p with
  | ⟨_, type, _, none, _⟩ => exact h type List.mem_cons_self
  | ⟨_, type, _, some components, _⟩ =>
    have htype : IsWord type := h type List.mem_cons_self
    rw [Parameter.shape]
    cases hs : tupleSuffix? type with
    | none => exact htype
    | some suffix =>
      refine ⟨allPlain_shapes components fun t ht => h t (List.mem_cons_of_mem type ht), ?_⟩
      intro c hc
      apply htype.plain
      rw [type_of_tupleSuffix? hs, String.toList_append]
      exact List.mem_append_right _ hc

theorem allPlain_shapes (ps : List Parameter) (h : ∀ t ∈ typesOf ps, IsWord t) :
    Shape.AllPlain (shapes ps) := by
  match ps with
  | [] => trivial
  | p :: ps =>
    refine ⟨p.plain_shape fun t ht => h t ?_, allPlain_shapes ps fun t ht => h t ?_⟩
    · exact List.mem_append_left _ ht
    · exact List.mem_append_right _ ht

end

/-! ## Where a type ends -/

/-- The text does not go on with a type: it is at its end, or a delimiter comes next. -/
def EndsType (rest : List Char) : Prop := ∀ c ∈ rest.head?, c ∈ delimiters

/-- What is left of a text in front of its end has no delimiter, or nothing is left. -/
theorem eq_nil_of_endsType {a rest rest' : List Char} (ha : ∀ c ∈ a, c ∉ delimiters)
    (hrest : EndsType rest) (h : rest = a ++ rest') : a = [] := by
  cases a with
  | nil => rfl
  | cons c a =>
    subst h
    exact absurd (hrest c rfl) (ha c List.mem_cons_self)

/-- Texts without delimiters are the same if they are the same with what ends them. -/
theorem plain_append_inj {a b r s : List Char} (ha : ∀ c ∈ a, c ∉ delimiters)
    (hb : ∀ c ∈ b, c ∉ delimiters) (hr : EndsType r) (hs : EndsType s) (h : a ++ r = b ++ s) :
    a = b ∧ r = s := by
  rcases List.append_eq_append_iff.1 h with ⟨more, rfl, hrest⟩ | ⟨more, rfl, hrest⟩
  · have hmore : more = [] := by
      refine eq_nil_of_endsType (fun c hc => hb c ?_) hr hrest
      exact List.mem_append_right _ hc
    subst hmore
    exact ⟨(List.append_nil a).symm, hrest⟩
  · have hmore : more = [] := by
      refine eq_nil_of_endsType (fun c hc => ha c ?_) hs hrest
      exact List.mem_append_right _ hc
    subst hmore
    exact ⟨List.append_nil b, hrest.symm⟩

/-- The texts of shapes with commas between them. -/
def Shape.series (ss : List Shape) : List Char := (String.intercalate "," (Shape.texts ss)).toList

/-- What follows the first of the texts in a series. -/
def Shape.following : List Shape → List Char
  | [] => []
  | s :: ss => ',' :: Shape.series (s :: ss)

theorem Shape.series_cons (s : Shape) (ss : List Shape) :
    Shape.series (s :: ss) = s.text.toList ++ Shape.following ss := by
  cases ss with
  | nil => simp [Shape.series, Shape.following, Shape.texts]
  | cons t ss =>
    simp [Shape.series, Shape.following, Shape.texts, String.intercalate_cons_cons]

theorem Shape.toList_text_tuple (components : List Shape) (suffix : String) :
    (Shape.tuple components suffix).text.toList =
      '(' :: (Shape.series components ++ ')' :: suffix.toList) := by
  simp [Shape.text, Shape.series]

theorem endsType_following (ss : List Shape) (rest : List Char) :
    EndsType (Shape.following ss ++ ')' :: rest) := by
  cases ss <;> simp [EndsType, Shape.following, delimiters]

/-- A word starts with a character of its own. -/
theorem IsWord.head {type : String} (h : IsWord type) :
    ∃ c cs, type.toList = c :: cs ∧ c ∉ delimiters := by
  cases ht : type.toList with
  | nil => exact absurd (String.toList_eq_nil_iff.1 ht) h.ne_empty
  | cons c cs => exact ⟨c, cs, rfl, h.plain c (ht ▸ List.mem_cons_self)⟩

/-- The text of a shape is not empty and closes nothing. -/
theorem Shape.Plain.head {s : Shape} (h : s.Plain) :
    ∃ c cs, s.text.toList = c :: cs ∧ c ≠ ')' := by
  cases s with
  | word type =>
    obtain ⟨c, cs, hc, hdelimiter⟩ := IsWord.head h
    refine ⟨c, cs, hc, ?_⟩
    rintro rfl
    exact hdelimiter (by decide)
  | tuple components suffix => exact ⟨_, _, Shape.toList_text_tuple components suffix, by decide⟩

/-! ## Reading back -/

/-- A word and a tuple do not start alike. -/
theorem word_text_ne_tuple_text {type suffix : String} {components : List Shape}
    (h : IsWord type) (r s : List Char) :
    (Shape.word type).text.toList ++ r ≠ (Shape.tuple components suffix).text.toList ++ s := by
  obtain ⟨c, cs, hc, hdelimiter⟩ := h.head
  rw [Shape.toList_text_tuple, Shape.text, hc]
  intro heq
  obtain ⟨rfl, -⟩ := List.cons.inj heq
  exact hdelimiter (by decide)

mutual

/-- A shape can be read back from a text that goes on behind it with a delimiter. -/
theorem Shape.text_append_inj (s t : Shape) (hs : s.Plain) (ht : t.Plain) {r r' : List Char}
    (hr : EndsType r) (hr' : EndsType r') (h : s.text.toList ++ r = t.text.toList ++ r') :
    s = t ∧ r = r' := by
  match s, t with
  | .word a, .word b =>
    obtain ⟨hab, hrest⟩ := plain_append_inj (IsWord.plain hs) (IsWord.plain ht) hr hr' h
    exact ⟨congrArg _ (String.toList_inj.1 hab), hrest⟩
  | .word a, .tuple cs u => exact absurd h (word_text_ne_tuple_text hs r r')
  | .tuple cs u, .word a => exact absurd h.symm (word_text_ne_tuple_text ht r' r)
  | .tuple cs u, .tuple ds v =>
    rw [Shape.toList_text_tuple, Shape.toList_text_tuple] at h
    simp only [List.cons_append, List.append_assoc, List.cons.injEq, true_and] at h
    obtain ⟨rfl, hrest⟩ := Shape.series_append_inj cs ds hs.1 ht.1 h
    obtain ⟨huv, hrest⟩ := plain_append_inj hs.2 ht.2 hr hr' hrest
    exact ⟨congrArg _ (String.toList_inj.1 huv), hrest⟩

/-- Shapes between brackets can be read back. -/
theorem Shape.series_append_inj (ss ts : List Shape) (hs : Shape.AllPlain ss)
    (ht : Shape.AllPlain ts) {r r' : List Char}
    (h : Shape.series ss ++ ')' :: r = Shape.series ts ++ ')' :: r') : ss = ts ∧ r = r' := by
  match ss, ts with
  | [], [] => exact ⟨rfl, (List.cons.inj h).2⟩
  | [], t :: ts =>
    obtain ⟨c, cs, hc, hne⟩ := ht.1.head
    rw [Shape.series_cons, hc] at h
    exact absurd (List.cons.inj h).1.symm hne
  | s :: ss, [] =>
    obtain ⟨c, cs, hc, hne⟩ := hs.1.head
    rw [Shape.series_cons, hc] at h
    exact absurd (List.cons.inj h).1 hne
  | s :: ss, t :: ts =>
    rw [Shape.series_cons, Shape.series_cons, List.append_assoc, List.append_assoc] at h
    obtain ⟨rfl, hrest⟩ := Shape.text_append_inj s t hs.1 ht.1 (endsType_following ss r)
      (endsType_following ts r') h
    -- What follows the first text starts with a comma if there is another and with the bracket
    -- if there is none.
    match ss, ts with
    | [], [] => exact ⟨rfl, (List.cons.inj hrest).2⟩
    | [], _ :: _ => exact absurd (List.cons.inj hrest).1 (by decide)
    | _ :: _, [] => exact absurd (List.cons.inj hrest).1 (by decide)
    | s' :: ss', t' :: ts' =>
      obtain ⟨hrest, hr⟩ := Shape.series_append_inj (s' :: ss') (t' :: ts') hs.2 ht.2
        (List.cons.inj hrest).2
      exact ⟨congrArg _ hrest, hr⟩

end

/-! ## Signatures -/

/-- A name and inputs whose signature can be read back: the name has no opening bracket, and the
types at every depth are words. -/
structure Legible (name : String) (inputs : List Parameter) : Prop where
  name : '(' ∉ name.toList
  types : ∀ t ∈ typesOf inputs, IsWord t

theorem toList_signature (name : String) (inputs : List Parameter) :
    (signature name inputs).toList = name.toList ++ '(' :: (Shape.series (shapes inputs) ++ [')']) := by
  simp [signature, Shape.series, texts_shapes]

/-- Texts in front of the first opening bracket are the same if the whole is. -/
theorem bracket_append_inj {a b r s : List Char} (ha : '(' ∉ a) (hb : '(' ∉ b)
    (h : a ++ '(' :: r = b ++ '(' :: s) : a = b ∧ r = s := by
  induction a generalizing b with
  | nil =>
    cases b with
    | nil => exact ⟨rfl, (List.cons.inj h).2⟩
    | cons d b => exact absurd (List.cons.inj h).1 fun e => hb (e ▸ List.mem_cons_self)
  | cons c a ih =>
    cases b with
    | nil => exact absurd (List.cons.inj h).1.symm fun e => ha (e ▸ List.mem_cons_self)
    | cons d b =>
      obtain ⟨rfl, hrest⟩ := List.cons.inj h
      obtain ⟨rfl, hr⟩ := ih (fun hm => ha (List.mem_cons_of_mem c hm))
        (fun hm => hb (List.mem_cons_of_mem c hm)) hrest
      exact ⟨rfl, hr⟩

/-- A signature that can be read back tells the name and the shapes of the inputs. -/
theorem signature_eq_iff {name other : String} {ps qs : List Parameter} (hp : Legible name ps)
    (hq : Legible other qs) :
    signature name ps = signature other qs ↔ name = other ∧ shapes ps = shapes qs := by
  constructor
  · intro h
    have hchars := congrArg String.toList h
    rw [toList_signature, toList_signature] at hchars
    obtain ⟨hname, hinputs⟩ := bracket_append_inj hp.name hq.name hchars
    obtain ⟨hshapes, -⟩ := Shape.series_append_inj (shapes ps) (shapes qs)
      (allPlain_shapes ps hp.types) (allPlain_shapes qs hq.types) hinputs
    exact ⟨String.toList_inj.1 hname, hshapes⟩
  · rintro ⟨rfl, hshapes⟩
    rw [signature, signature, ← texts_shapes ps, ← texts_shapes qs, hshapes]

/-! ## Groups -/

/-- The inputs of an entry. -/
def Item.inputs : Item → List Parameter
  | .function f | .special _ f => f.inputs
  | .event e => e.inputs
  | .error e => e.inputs

/-- The signature of an entry of a group is that of the group's name with the inputs of the
entry. -/
theorem signature_of_mem_entries {items : List Item} {g : Group} (hg : g ∈ groups items)
    {item : Item} (hitem : item ∈ g.entries) :
    item.outline?.map Outline.signature = some (signature g.name item.inputs) := by
  rw [entries_groups hg, List.mem_filter, decide_eq_true_eq] at hitem
  obtain ⟨-, hkey⟩ := hitem
  cases item with
  | function f =>
    have hname : f.name = g.name := congrArg Prod.snd (Option.some.inj hkey)
    rw [← hname]
    rfl
  | event e =>
    have hname : e.name = g.name := congrArg Prod.snd (Option.some.inj hkey)
    rw [← hname]
    rfl
  | error e => cases hkey
  | special role f => cases hkey

/-- Where names have no opening bracket, and types at every depth are not empty and have no bracket
and no comma in them, two signatures are the same just where the names are and the inputs have the
same shapes. So two entries of one group whose inputs differ in shape have two signatures. -/
theorem signatures_are_unambiguous :
    (∀ name other ps qs, Legible name ps → Legible other qs →
      (signature name ps = signature other qs ↔ name = other ∧ shapes ps = shapes qs)) ∧
    ∀ items, ∀ g ∈ groups items, ∀ a ∈ g.entries, ∀ b ∈ g.entries,
      Legible g.name a.inputs → Legible g.name b.inputs → shapes a.inputs ≠ shapes b.inputs →
      a.outline?.map Outline.signature ≠ b.outline?.map Outline.signature := by
  refine ⟨fun name other ps qs => signature_eq_iff, ?_⟩
  intro items g hg a ha b hb hla hlb hshapes hsame
  rw [signature_of_mem_entries hg ha, signature_of_mem_entries hg hb, Option.some.injEq,
    signature_eq_iff hla hlb] at hsame
  exact hshapes hsame.2

/-- A function of a market that takes an order, or several where the suffix says so. -/
def orderFunction (suffix : String) : Function :=
  let amount : Parameter := ⟨"amount", "uint256", none, none, false⟩
  ⟨"fill", [⟨"order", "tuple" ++ suffix, none, some [amount], false⟩], [], .nonpayable⟩

/-- Orders and lists of orders are told apart by their signatures. -/
theorem one_order_and_several_have_two_signatures :
    let one := Item.function (orderFunction "")
    let several := Item.function (orderFunction "[]")
    Legible "fill" one.inputs ∧ Legible "fill" several.inputs ∧
      signature "fill" one.inputs ≠ signature "fill" several.inputs ∧
      ∃ g ∈ groups [one, several], one ∈ g.entries ∧ several ∈ g.entries ∧
        one.outline?.map Outline.signature ≠ several.outline?.map Outline.signature := by
  intro one several
  have hone : Legible "fill" one.inputs := ⟨by decide, by decide⟩
  have hseveral : Legible "fill" several.inputs := ⟨by decide, by decide⟩
  have hshapes : shapes one.inputs ≠ shapes several.inputs := fun h => by cases h
  let fills : Group := .write ⟨"fill", [orderFunction "", orderFunction "[]"]⟩
  have hfills : fills ∈ groups [one, several] := List.mem_singleton_self fills
  have hmem : one ∈ fills.entries ∧ several ∈ fills.entries :=
    ⟨List.mem_cons_self, List.mem_cons_of_mem _ List.mem_cons_self⟩
  obtain ⟨hsignature, hgroup⟩ := signatures_are_unambiguous
  refine ⟨hone, hseveral, fun h => ?_, fills, hfills, hmem.1, hmem.2, ?_⟩
  · exact hshapes ((hsignature _ _ _ _ hone hseveral).1 h).2
  · exact hgroup _ fills hfills one hmem.1 several hmem.2 hone hseveral hshapes

end ContractHooks.Abi
