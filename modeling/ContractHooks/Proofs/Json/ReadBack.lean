-- What is written as JSON without any space is read back. A reader takes off the text just what was
-- written, and leaves what stands behind it.
import ContractHooks.Json.Shape

namespace ContractHooks.Json

/-- The reader takes the characters off whatever they stand before, and gives the value. -/
def Reads {α : Type} (read : Cursor → Read α) (cs : List Char) (a : α) : Prop :=
  ∀ rest place, read ⟨cs ++ rest, place⟩ = .ok (a, ⟨rest, cs.foldl Place.after place⟩)

/-! ## Cursors -/

theorem advance_one (c : Char) (cs : List Char) (place : Place) :
    Cursor.advance ⟨c :: cs, place⟩ 1 = ⟨cs, place.after c⟩ := rfl

theorem skipGap_cons {c : Char} (h : Cursor.isGap c = false) (cs : List Char) (place : Place) :
    Cursor.skipGap ⟨c :: cs, place⟩ = ⟨c :: cs, place⟩ := by
  simp [Cursor.skipGap, Cursor.advance, h]

theorem isAt_cons (c d : Char) (cs : List Char) (place : Place) :
    Cursor.isAt ⟨c :: cs, place⟩ d = (c == d) := by
  simp [Cursor.isAt]

/-! ## Texts -/

theorem reads_quote_end : Reads readTextBody ['"'] [] := by
  intro rest place
  rw [List.singleton_append, readTextBody, if_pos rfl]
  rfl

variable {c : Char} {cs ds : List Char}

theorem reads_simpleEscape {letter : Char} (hletter : simpleEscape? letter = some c)
    (h : Reads readTextBody cs ds) : Reads readTextBody ('\\' :: letter :: cs) (c :: ds) := by
  intro rest place
  have hescape : readEscape ⟨letter :: (cs ++ rest), place.after '\\'⟩ = .ok (c, 1) := by
    simp only [readEscape, hletter]
  rw [List.cons_append, List.cons_append, readTextBody, if_neg (by decide), if_pos rfl, hescape]
  dsimp only
  rw [advance_one, h]
  rfl

/-- The four digits of a number that two of them could write. -/
def fourDigits (n : Nat) : List Char := ['0', '0', Text.hexChar (n / 16), Text.hexChar (n % 16)]

theorem readQuad_fourDigits {n : Nat} (hn : n < 0x20) (cs : List Char) (place : Place) :
    readQuad ⟨fourDigits n ++ cs, place⟩ = .ok n := by
  have hdigits : ∀ m : Fin 0x20, ¬ (String.ofList (fourDigits m)).utf8ByteSize < 4 ∧
      (fourDigits m).filterMap Text.hexValue? = [0, 0, m.val / 16, m.val % 16] := by decide
  obtain ⟨hsize, hvalues⟩ := hdigits ⟨n, hn⟩
  have htake : (fourDigits n ++ cs).take 4 = fourDigits n := rfl
  have hvalue : [0, 0, n / 16, n % 16].foldl (fun n d => 16 * n + d) 0 = n := by
    simp only [List.foldl_cons, List.foldl_nil]
    omega
  unfold readQuad
  rw [htake, if_neg hsize, hvalues]
  dsimp only
  have hlength : [0, 0, n / 16, n % 16].length = 4 := rfl
  rw [if_pos hlength, hvalue]

theorem readCodeUnits_fourDigits (hc : c.toNat < 0x20) (cs : List Char) (place : Place) :
    readCodeUnits ⟨fourDigits c.toNat ++ cs, place⟩ = .ok (c, 4) := by
  have hlow : isLowHalf c.toNat = false := by simp [isLowHalf]; omega
  have hhigh : isHighHalf c.toNat = false := by simp [isHighHalf]; omega
  unfold readCodeUnits
  rw [readQuad_fourDigits hc]
  simp only [bind, Except.bind, hlow, hhigh, Char.ofNat_toNat, Bool.false_eq_true, if_false]

theorem reads_fourDigits (hc : c.toNat < 0x20) (h : Reads readTextBody cs ds) :
    Reads readTextBody ('\\' :: 'u' :: (fourDigits c.toNat ++ cs)) (c :: ds) := by
  intro rest place
  have hnone : simpleEscape? 'u' = none := by decide
  have hescape : readEscape ⟨'u' :: (fourDigits c.toNat ++ (cs ++ rest)), place.after '\\'⟩ =
      .ok (c, 5) := by
    simp only [readEscape, hnone, if_true, advance_one, readCodeUnits_fourDigits hc, bind,
      Except.bind]
  rw [List.cons_append, List.cons_append, List.append_assoc, readTextBody, if_neg (by decide),
    if_pos rfl, hescape]
  have hbehind : Cursor.advance ⟨'u' :: (fourDigits c.toNat ++ (cs ++ rest)), place.after '\\'⟩ 5 =
      ⟨cs ++ rest, ('\\' :: 'u' :: fourDigits c.toNat).foldl Place.after place⟩ := rfl
  dsimp only
  rw [hbehind, h]
  rfl

theorem reads_plain (hquote : c ≠ '"') (hback : c ≠ '\\') (hvisible : ¬ c.toNat < 0x20)
    (h : Reads readTextBody cs ds) : Reads readTextBody (c :: cs) (c :: ds) := by
  intro rest place
  rw [List.cons_append, readTextBody, if_neg hquote, if_neg hback, if_neg hvisible, h]
  rfl

/-- A character is read back, whether it is escaped or stands for itself. -/
theorem reads_escapeChar (c : Char) (h : Reads readTextBody cs ds) :
    Reads readTextBody (escapeChar c ++ cs) (c :: ds) := by
  unfold escapeChar
  -- Seven characters have a letter of their own.
  iterate 7
    split
    · next hc =>
      subst hc
      exact reads_simpleEscape (by decide) h
  next hquote hback _ _ _ _ _ =>
  split
  · next hc => exact reads_fourDigits hc h
  · next hvisible => exact reads_plain hquote hback hvisible h

theorem reads_flatMap_escapeChar (ds : List Char) :
    Reads readTextBody (ds.flatMap escapeChar ++ ['"']) ds := by
  induction ds with
  | nil => exact reads_quote_end
  | cons c ds ih =>
    rw [List.flatMap_cons, List.append_assoc]
    exact reads_escapeChar c ih

theorem toList_quote (s : String) :
    (quote s).toList = '"' :: (s.toList.flatMap escapeChar ++ ['"']) := by
  rw [quote, String.toList_ofList]
  rfl

theorem readText_quoted (s : String) :
    Reads readText (s.toList.flatMap escapeChar ++ ['"']) s := by
  intro rest place
  rw [readText, reads_flatMap_escapeChar]
  dsimp only
  rw [String.ofList_toList]

theorem reads_scalar_text (s : String) : Reads scalar (quote s).toList (.text s) := by
  intro rest place
  rw [toList_quote, List.cons_append]
  simp only [scalar, advance_one, Char.reduceEq, if_false, if_true, readText_quoted s rest]
  have hdigit : isDigit '"' = false := by decide
  rw [hdigit]
  rfl

/-! ## Objects -/

/-- The comma that stands before all but the first of several. -/
def comma (first : Bool) : List Char := if first then [] else [',']

/-- Texts in a row, with commas between them. -/
def inRow : Bool → List String → List Char
  | _, [] => []
  | first, t :: ts => comma first ++ t.toList ++ inRow false ts

theorem toList_intercalate (ts : List String) :
    (String.intercalate "," ts).toList = inRow true ts := by
  have behind (ts : List String) (t : String) :
      (String.intercalate "," (t :: ts)).toList = t.toList ++ inRow false ts := by
    induction ts generalizing t with
    | nil => simp [inRow]
    | cons u ts ih =>
      rw [String.intercalate_cons_cons, String.toList_append, ih, String.toList_append]
      simp [inRow, comma]
  cases ts with
  | nil => rfl
  | cons t ts =>
    rw [behind]
    rfl

theorem reads_nextKey (first : Bool) (key : String) :
    Reads (nextKey first) (comma first ++ (quote key).toList) (some key) := by
  intro rest place
  rw [toList_quote]
  cases first with
  | true =>
    simp only [comma, if_true, List.nil_append, List.cons_append, nextKey,
      skipGap_cons (c := '"') (by decide), Char.reduceEq, if_false, advance_one,
      readText_quoted key rest]
    rfl
  | false =>
    simp only [comma, Bool.false_eq_true, List.nil_append, List.cons_append, nextKey,
      skipGap_cons (c := ',') (by decide), skipGap_cons (c := '"') (by decide),
      Char.reduceEq, if_false, if_true, advance_one, readText_quoted key rest]
    rfl

theorem nextKey_end (first : Bool) (rest : List Char) (place : Place) :
    nextKey first ⟨'\x7d' :: rest, place⟩ = .ok (none, ⟨'\x7d' :: rest, place⟩) := by
  simp only [nextKey, skipGap_cons (c := '\x7d') (by decide), if_true]

theorem passColon_colon (rest : List Char) (place : Place) :
    passColon ⟨':' :: rest, place⟩ = .ok ⟨rest, place.after ':'⟩ := by
  simp only [passColon, skipGap_cons (c := ':') (by decide), if_true, advance_one]

theorem closeObject_brace (rest : List Char) (place : Place) :
    closeObject ⟨'\x7d' :: rest, place⟩ = .ok ⟨rest, place.after '\x7d'⟩ := by
  simp only [closeObject, skipGap_cons (c := '\x7d') (by decide), if_true, advance_one]

/-- A key with the value behind it. -/
def memberText (key : String) (j : Json) : String := quote key ++ ":" ++ compact j

/-- The members of an object in a row. -/
def memberTexts (first : Bool) (ms : List (String × Json)) : List Char :=
  inRow first (ms.map fun m => memberText m.1 m.2)

theorem compactMembers_eq_map (ms : List (String × Json)) :
    compactMembers ms = ms.map fun m => memberText m.1 m.2 := by
  induction ms with
  | nil => rw [compactMembers, List.map_nil]
  | cons m ms ih =>
    obtain ⟨key, j⟩ := m
    rw [compactMembers, ih]
    rfl

theorem toList_compact_object (ms : List (String × Json)) :
    (compact (.object ms)).toList = '\x7b' :: (memberTexts true ms ++ ['\x7d']) := by
  rw [compact, compactMembers_eq_map, String.toList_append, String.toList_append,
    toList_intercalate]
  rfl

theorem memberTexts_cons (first : Bool) (key : String) (j : Json) (ms : List (String × Json)) :
    memberTexts first ((key, j) :: ms) =
      (comma first ++ (quote key).toList) ++ ':' :: ((compact j).toList ++ memberTexts false ms) := by
  simp [memberTexts, inRow, memberText, String.toList_append, List.append_assoc]

/-- The members of an object are read back, if the values are. -/
theorem members_memberTexts {read : Cursor → Read Json} {ms : List (String × Json)}
    (h : ∀ m ∈ ms, Reads read (compact m.2).toList m.2) {fuel : Nat} (hfuel : ms.length < fuel)
    (first : Bool) (rest : List Char) (place : Place) :
    members read fuel first ⟨memberTexts first ms ++ '\x7d' :: rest, place⟩ =
      .ok (ms, ⟨'\x7d' :: rest, (memberTexts first ms).foldl Place.after place⟩) := by
  induction ms generalizing fuel first place with
  | nil =>
    obtain ⟨fuel, rfl⟩ := Nat.exists_eq_succ_of_ne_zero (Nat.ne_zero_of_lt hfuel)
    have hnone : memberTexts first [] = [] := rfl
    rw [hnone, List.nil_append, members, nextKey_end]
    rfl
  | cons m ms ih =>
    obtain ⟨key, j⟩ := m
    obtain ⟨hj, hrest⟩ := List.forall_mem_cons.1 h
    obtain ⟨fuel, rfl⟩ := Nat.exists_eq_succ_of_ne_zero (Nat.ne_zero_of_lt hfuel)
    have hbehind := ih hrest (Nat.lt_of_succ_lt_succ hfuel) false
    rw [memberTexts_cons, List.append_assoc, members, reads_nextKey]
    dsimp only
    rw [List.cons_append, passColon_colon]
    dsimp only
    rw [List.append_assoc, hj]
    dsimp only
    rw [hbehind]
    simp only [List.foldl_append, List.foldl_cons]

theorem length_le_memberTexts (first : Bool) (ms : List (String × Json)) :
    ms.length ≤ (memberTexts first ms).length := by
  induction ms generalizing first with
  | nil => exact Nat.zero_le _
  | cons m ms ih =>
    have hrest := ih false
    rw [memberTexts_cons]
    simp only [List.length_append, List.length_cons]
    omega

/-- An object has fewer members than characters. -/
theorem length_lt_compact (ms : List (String × Json)) :
    ms.length < (compact (.object ms)).length := by
  have h := length_le_memberTexts true ms
  rw [← String.length_toList, toList_compact_object]
  simp only [List.length_append, List.length_cons]
  omega

theorem length_compact_le_memberTexts (first : Bool) {ms : List (String × Json)} {m : String × Json}
    (hm : m ∈ ms) :
    (compact m.2).toList.length ≤ (memberTexts first ms).length := by
  induction ms generalizing first with
  | nil => cases hm
  | cons m' ms ih =>
    rw [memberTexts_cons]
    simp only [List.length_append, List.length_cons]
    rcases List.mem_cons.1 hm with rfl | hm
    · omega
    · have hrest := ih false hm
      omega

/-- The text of a member is shorter than that of the object. -/
theorem length_compact_lt {ms : List (String × Json)} {m : String × Json} (hm : m ∈ ms) :
    (compact m.2).length < (compact (.object ms)).length := by
  have h := length_compact_le_memberTexts true hm
  rw [← String.length_toList, ← String.length_toList, toList_compact_object]
  simp only [List.length_append, List.length_cons]
  omega

/-! ## Values -/

/-- A reader that goes to a depth takes a value off the text that writes `j`, if its loops are bounded
by more than the length of that text. -/
def Restores {α : Type} (read : Nat → Nat → Cursor → Read α) (depth : Nat) (j : Json) (a : α) :
    Prop :=
  ∀ limit, (compact j).length < limit → Reads (read limit depth) (compact j).toList a

theorem restores_value_text (depth : Nat) (s : String) :
    Restores value depth (.text s) (.text s) := by
  intro limit _ rest place
  have hscalar (inner : Option (Cursor → Read Json)) :
      valueWith limit inner ⟨(quote s).toList ++ rest, place⟩ =
        scalar ⟨(quote s).toList ++ rest, place⟩ := by
    rw [toList_quote, List.cons_append]
    simp only [valueWith, skipGap_cons (c := '"') (by decide), isAt_cons]
    rfl
  cases depth with
  | zero => exact (hscalar none).trans (reads_scalar_text s rest place)
  | succ depth => exact (hscalar _).trans (reads_scalar_text s rest place)

theorem restores_value_object {depth : Nat} {ms : List (String × Json)}
    (h : ∀ m ∈ ms, Restores value depth m.2 m.2) :
    Restores value (depth + 1) (.object ms) (.object ms) := by
  intro limit hlimit rest place
  have hmembers : ∀ m ∈ ms, Reads (value limit depth) (compact m.2).toList m.2 := fun m hm =>
    h m hm limit (Nat.lt_trans (length_compact_lt hm) hlimit)
  rw [toList_compact_object, List.cons_append, List.append_assoc, List.singleton_append]
  simp only [value, valueWith, skipGap_cons (c := '\x7b') (by decide), isAt_cons, Char.reduceBEq,
    Bool.false_eq_true, if_false, if_true, advance_one,
    members_memberTexts hmembers (Nat.lt_trans (length_lt_compact ms) hlimit), closeObject_brace,
    List.foldl_append, List.foldl_cons, List.foldl_nil]

end ContractHooks.Json
