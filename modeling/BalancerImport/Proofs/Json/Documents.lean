import BalancerImport.Proofs.Json.Texts
import BalancerImport.Proofs.Text.Numerals
import Mathlib.Data.List.Basic

/-!
# Documents that are read back

The document of a value is read back as that value if its numbers are integers of 64 bits and it is
not nested too deep. A value is read wherever it stands: alone, as an item, or as a member.

* `readUnsignedNumber_toDigits`, `readNumber_toString`: numbers;
* `listed`, `chars`, `memberChars`: the characters of a document;
* `ReadBack`: a value that is read back from its characters, whatever follows; `readBack_int`,
  `readBack_arr`, `readBack_obj`: it is if its parts are;
* `Plain`: values of texts and integers; `Plain.readBack`, **`Plain.parse?_render`**.
-/

namespace BalancerImport.Json

open Text

/-! ## Numbers -/

/-- What may follow a value: the end of the document, a comma or a closing bracket. -/
def Follows (r : List Char) : Prop := ∀ c ∈ r.head?, c = ',' ∨ c = ']' ∨ c = '\x7d'

variable {digits r cs : List Char} {fuel depth : Nat}

theorem Follows.digitValue? {c : Char} (h : Follows (c :: r)) : digitValue? c = none := by
  rcases h c rfl with rfl | rfl | rfl <;> rfl

theorem takeDigits_of_follows (h : Follows r) (significand count : Nat) :
    takeDigits significand count r = (significand, count, r) := by
  cases r with
  | nil => rfl
  | cons c r => simp only [takeDigits, h.digitValue?]

theorem dropDigits_of_follows (h : Follows r) (count : Nat) : dropDigits count r = (count, r) := by
  cases r with
  | nil => rfl
  | cons c r => simp [dropDigits, h.digitValue?]

/-- Digits of a number of 64 bits are taken as a whole. -/
theorem takeDigits_append (hr : Follows r) : ∀ {digits : List Char} (significand count : Nat),
    (∀ c ∈ digits, c.isDigit = true) → Nat.ofDigitChars 10 digits significand ≤ maxWord64 →
    takeDigits significand count (digits ++ r) =
      (Nat.ofDigitChars 10 digits significand, count + digits.length, r)
  | [], significand, count, _, _ => takeDigits_of_follows hr significand count
  | c :: digits, significand, count, hdigits, hle => by
    obtain ⟨hc, hrest⟩ := List.forall_mem_cons.mp hdigits
    have hvalue : digitValue? c = some (c.toNat - '0'.toNat) := digitValue?_eq_some.mpr ⟨hc, rfl⟩
    rw [Nat.ofDigitChars_cons, Nat.mul_comm] at hle
    have hfits : ¬ maxWord64 < significand * 10 + (c.toNat - '0'.toNat) :=
      Nat.not_lt.mpr (Nat.le_trans (le_ofDigitChars digits _) hle)
    rw [List.cons_append, takeDigits, hvalue]
    dsimp only
    rw [if_neg hfits, takeDigits_append hr _ _ hrest hle, Nat.ofDigitChars_cons, Nat.mul_comm,
      List.length_cons, Nat.add_right_comm, Nat.add_assoc]

theorem takeWhile_digits (hdigits : ∀ c ∈ digits, c.isDigit = true) (hr : Follows r) :
    ((digits ++ r).takeWhile fun c => (digitValue? c).isSome) = digits := by
  have htaken : ∀ c ∈ digits, (digitValue? c).isSome = true := by
    intro c hc
    rw [digitValue?_eq_some.mpr ⟨hdigits c hc, rfl⟩, Option.isSome_some]
  rw [List.takeWhile_append_of_pos htaken]
  cases r with
  | nil => simp
  | cons c r => simp [hr.digitValue?]

/-- No number but zero is written with a zero at the front. -/
theorem head?_toDigits {n : Nat} (h : 0 < n) : (Nat.toDigits 10 n).head? ≠ some '0' := by
  have hdigit : ∀ n < 10, 0 < n → [n.digitChar].head? ≠ some '0' := by decide
  induction n using Nat.strongRecOn with
  | ind n ih =>
    by_cases hn : n < 10
    · rw [Nat.toDigits_of_lt_base hn]
      exact hdigit n hn h
    · rw [Nat.toDigits_of_base_le (by decide) (Nat.not_lt.mp hn),
        List.head?_append_of_ne_nil _ Nat.toDigits_ne_nil]
      exact ih (n / 10) (by omega) (by omega)

/-- A number after its sign, and what it is read as. -/
theorem readUnsignedNumber_toDigits (negative : Bool) {n : Nat} (hn : n ≤ maxWord64)
    (hr : Follows r) : readUnsignedNumber negative (Nat.toDigits 10 n ++ r) =
      if !negative then some (.int n, r)
      else if n == 0 || maxInt64 + 1 < n then (doubleOf? true n 0).map (·, r)
      else some (.int (-(n : Int)), r) := by
  have hdigits : ∀ c ∈ Nat.toDigits 10 n, c.isDigit = true := fun c hc =>
    Nat.isDigit_of_mem_toDigits (by decide) (by decide) hc
  have hvalue : Nat.ofDigitChars 10 (Nat.toDigits 10 n) 0 = n := Nat.ofDigitChars_ten_toDigits
  have hplain : ((Nat.toDigits 10 n).isEmpty ||
      (1 < (Nat.toDigits 10 n).length && (Nat.toDigits 10 n).head? == some '0')) = false := by
    rcases Nat.eq_zero_or_pos n with rfl | hpos
    · rfl
    · have hhead : ((Nat.toDigits 10 n).head? == some '0') = false :=
        beq_eq_false_iff_ne.mpr (head?_toDigits hpos)
      rw [hhead, Bool.and_false, Bool.or_false, List.isEmpty_eq_false_iff]
      exact Nat.toDigits_ne_nil
  have htaken : takeDigits 0 0 (Nat.toDigits 10 n ++ r) =
      (n, 0 + (Nat.toDigits 10 n).length, r) := by
    rw [takeDigits_append hr 0 0 hdigits (hvalue.symm ▸ hn), hvalue]
  simp only [readUnsignedNumber, takeWhile_digits hdigits hr, hplain, Bool.false_eq_true, if_false,
    htaken, dropDigits_of_follows hr]
  cases r with
  | nil => simp
  | cons c r => rcases hr c rfl with rfl | rfl | rfl <;> simp

/-- An integer of 64 bits, with or without a sign. -/
def IsWord (n : Int) : Prop := -((maxInt64 : Int) + 1) ≤ n ∧ n ≤ maxWord64

theorem toList_toString_ofNat (n : Nat) : (toString (Int.ofNat n)).toList = Nat.toDigits 10 n := by
  change (Nat.repr n).toList = _
  rw [Nat.repr_eq_ofList_toDigits, String.toList_ofList]

theorem toList_toString_negSucc (n : Nat) :
    (toString (Int.negSucc n)).toList = '-' :: Nat.toDigits 10 (n + 1) := by
  change ("-" ++ Nat.repr (n + 1)).toList = _
  simp [Nat.repr_eq_ofList_toDigits]

theorem readNumber_toString {n : Int} (hn : IsWord n) (hr : Follows r) :
    readNumber ((toString n).toList ++ r) = some (.int n, r) := by
  obtain ⟨hlow, hhigh⟩ := hn
  cases n with
  | ofNat n =>
    have hread := readUnsignedNumber_toDigits false (Int.ofNat_le.mp hhigh) hr
    rw [toList_toString_ofNat]
    unfold readNumber
    split
    · -- no sign is a digit
      rename_i rest hminus
      have hsign : (Nat.toDigits 10 n ++ r).head? = some '-' := by rw [hminus, List.head?_cons]
      rw [List.head?_append_of_ne_nil _ Nat.toDigits_ne_nil] at hsign
      have hdigit := Nat.isDigit_of_mem_toDigits (by decide) (by decide) (List.mem_of_head? hsign)
      exact absurd hdigit (by decide)
    · exact hread
  | negSucc n =>
    have hsmall : n + 1 ≤ maxInt64 + 1 := by omega
    have hword : n + 1 ≤ maxWord64 := Nat.le_trans hsmall (by decide)
    have hkept : (n + 1 == 0 || decide (maxInt64 + 1 < n + 1)) = false := by
      simpa using hsmall
    have hread := readUnsignedNumber_toDigits true hword hr
    rw [hkept] at hread
    rw [toList_toString_negSucc]
    exact hread

/-! ## The characters of a document -/

section

variable {α : Type} (chars : α → List Char)

/-- Texts with commas between them. -/
def listed (as : List α) : List Char :=
  [','].intercalate (as.map chars)

theorem listed_singleton (a : α) : listed chars [a] = chars a := by
  rw [listed, List.map_cons, List.map_nil, List.intercalate_singleton]

theorem listed_cons_cons (a b : α) (as : List α) :
    listed chars (a :: b :: as) = chars a ++ ',' :: listed chars (b :: as) := by
  rw [listed, List.map_cons, List.map_cons, List.intercalate_cons_cons, List.append_assoc]
  rfl

/-- Texts with commas between them begin with the first one. -/
theorem exists_listed_cons (a : α) (as : List α) :
    ∃ rest, listed chars (a :: as) = chars a ++ rest := by
  cases as with
  | nil => exact ⟨[], by rw [listed_singleton, List.append_nil]⟩
  | cons b as => exact ⟨_, listed_cons_cons chars a b as⟩

end

/-- The characters of a value. -/
def chars (j : Json) : List Char := (render j).toList

/-- The characters of a member. -/
def memberChars (m : String × Json) : List Char := (quote m.1).toList ++ ':' :: chars m.2

theorem memberChars_append (m : String × Json) (cs : List Char) : memberChars m ++ cs =
    '"' :: (m.1.toList.flatMap escape ++ '"' :: ':' :: (chars m.2 ++ cs)) := by
  simp [memberChars, toList_quote]

theorem length_chars_lt {m : String × Json} (h : (memberChars m).length < fuel) :
    (chars m.2).length < fuel := by
  rw [memberChars, List.length_append, List.length_cons] at h
  omega

theorem renderItems_eq : ∀ (js : List Json) (seen : List String),
    renderItems seen js = seen.reverse ++ js.map render
  | [], _ => by rw [renderItems, List.map_nil, List.append_nil]
  | j :: js, seen => by
    rw [renderItems, renderItems_eq js, List.reverse_cons, List.append_assoc]
    rfl

theorem renderMembers_eq : ∀ (ms : List (String × Json)) (seen : List String),
    renderMembers seen ms = seen.reverse ++ ms.map fun m => quote m.1 ++ ":" ++ render m.2
  | [], _ => by rw [renderMembers, List.map_nil, List.append_nil]
  | m :: ms, seen => by
    rw [renderMembers, renderMembers_eq ms, List.reverse_cons, List.append_assoc]
    rfl

theorem chars_arr (items : List Json) :
    chars (.arr items) = '[' :: (listed chars items ++ [']']) := by
  rw [chars, render, renderItems_eq, String.toList_append, String.toList_append,
    String.toList_intercalate, List.reverse_nil, List.nil_append, List.map_map]
  rfl

theorem chars_obj (members : List (String × Json)) :
    chars (.obj members) = '\x7b' :: (listed memberChars members ++ ['\x7d']) := by
  have hmembers : members.map (String.toList ∘ fun m => quote m.1 ++ ":" ++ render m.2) =
      members.map memberChars := by
    refine List.map_congr_left fun m _ => ?_
    rw [Function.comp_apply, String.toList_append, String.toList_append, List.append_assoc]
    rfl
  rw [chars, render, renderMembers_eq, String.toList_append, String.toList_append,
    String.toList_intercalate, List.reverse_nil, List.nil_append, List.map_map, hmembers]
  rfl

/-! ## Values that are read back -/

/-- A text begins with no gap and closes no list. -/
def Opens (cs : List Char) : Prop :=
  ∃ c rest, cs = c :: rest ∧ isGap c = false ∧ c ≠ ']'

theorem Opens.skipGap (h : Opens cs) : Json.skipGap cs = cs := by
  obtain ⟨c, rest, rfl, hgap, -⟩ := h
  exact List.dropWhile_cons_of_neg (by simp [hgap])

theorem Opens.append (h : Opens cs) (r : List Char) : Opens (cs ++ r) := by
  obtain ⟨c, rest, rfl, hc⟩ := h
  exact ⟨c, rest ++ r, rfl, hc⟩

theorem exists_toList_toString (n : Int) :
    ∃ c cs, (toString n).toList = c :: cs ∧ (c.isDigit = true ∨ c = '-') := by
  cases n with
  | ofNat n =>
    rw [toList_toString_ofNat]
    obtain ⟨c, cs, hcs⟩ := List.exists_cons_of_ne_nil (Nat.toDigits_ne_nil (n := n) (b := 10))
    have hc : c ∈ Nat.toDigits 10 n := by
      rw [hcs]
      exact List.mem_cons_self
    exact ⟨c, cs, hcs, .inl (Nat.isDigit_of_mem_toDigits (by decide) (by decide) hc)⟩
  | negSucc n =>
    exact ⟨'-', _, toList_toString_negSucc n, .inr rfl⟩

/-- What begins like a number is no gap and closes no list. -/
theorem opens_of_digit {c : Char} (h : c.isDigit = true ∨ c = '-') (cs : List Char) :
    Opens (c :: cs) := by
  refine ⟨c, cs, rfl, ?_, ?_⟩
  · simp only [isGap, Bool.or_eq_false_iff, beq_eq_false_iff_ne]
    and_intros
    all_goals
      rintro rfl
      exact absurd h (by decide)
  · rintro rfl
    exact absurd h (by decide)

/-- A value is read back from its text, whatever follows. -/
def ReadBack (depth : Nat) (j : Json) : Prop :=
  ∀ {fuel : Nat} {r : List Char}, (chars j).length < fuel → Follows r →
    readValue fuel depth (chars j ++ r) = some (j, r)

theorem ReadBack.of_succ {j : Json} (h : ∀ {fuel : Nat} {r : List Char},
    (chars j).length ≤ fuel → Follows r → readValue (fuel + 1) depth (chars j ++ r) = some (j, r)) :
    ReadBack depth j := by
  intro fuel r hfuel hr
  obtain ⟨fuel, rfl⟩ : ∃ n, fuel = n + 1 := ⟨fuel - 1, by omega⟩
  exact h (Nat.le_of_lt_succ hfuel) hr

/-- What begins like a number is read as one. -/
theorem readValue_number {c : Char} (h : c.isDigit = true ∨ c = '-') (cs : List Char) :
    readValue (fuel + 1) depth (c :: cs) =
      (readNumber (c :: cs)).map fun (n, r) => (.num n, r) := by
  have hskip : skipGap (c :: cs) = c :: cs := (opens_of_digit h cs).skipGap
  rw [readValue, hskip]
  split
  case h_7 => rfl
  all_goals
    rename_i hcs
    obtain ⟨rfl, -⟩ := List.cons.inj hcs
    exact absurd h (by decide)

theorem readBack_int {n : Int} (hn : IsWord n) : ReadBack depth (.int n) := by
  refine ReadBack.of_succ fun _ hr => ?_
  obtain ⟨c, cs, hcs, hc⟩ := exists_toList_toString n
  have hnumber := readNumber_toString hn hr
  have hchars : chars (.int n) = c :: cs := hcs
  rw [hcs] at hnumber
  rw [hchars, List.cons_append, readValue_number hc, ← List.cons_append, hnumber]
  rfl

/-! ## Items and members -/

theorem follows_comma (cs : List Char) : Follows (',' :: cs) := by
  rintro c ⟨⟩
  exact .inl rfl

theorem follows_bracket (cs : List Char) : Follows (']' :: cs) := by
  rintro c ⟨⟩
  exact .inr (.inl rfl)

theorem follows_brace (cs : List Char) : Follows ('\x7d' :: cs) := by
  rintro c ⟨⟩
  exact .inr (.inr rfl)

theorem readItems_next {j : Json} {seen : List Json} {r : List Char} (hread : ReadBack depth j)
    (hfuel : (chars j).length < fuel) :
    readItems (fuel + 1) depth seen (chars j ++ ',' :: r) = readItems fuel depth (j :: seen) r := by
  have hvalue := hread hfuel (follows_comma r)
  have hcomma : skipGap (',' :: r) = ',' :: r := rfl
  simp only [readItems, hvalue, hcomma]

theorem readItems_last {j : Json} {seen : List Json} {r : List Char} (hread : ReadBack depth j)
    (hfuel : (chars j).length < fuel) :
    readItems (fuel + 1) depth seen (chars j ++ ']' :: r) = some (.arr (j :: seen).reverse, r) := by
  have hvalue := hread hfuel (follows_bracket r)
  have hbracket : skipGap (']' :: r) = ']' :: r := rfl
  simp only [readItems, hvalue, hbracket]

/-- Items are read one after the other. -/
theorem readItems_listed {items : List Json} : ∀ {j : Json} {fuel : Nat} {seen : List Json}
    {r : List Char}, (∀ i ∈ j :: items, ReadBack depth i) →
    (listed chars (j :: items)).length < fuel →
    readItems (fuel + 1) depth seen (listed chars (j :: items) ++ ']' :: r) =
      some (.arr (seen.reverse ++ j :: items), r) := by
  induction items with
  | nil =>
    intro j fuel seen r hread hfuel
    rw [listed_singleton] at hfuel ⊢
    rw [readItems_last (hread j List.mem_cons_self) hfuel, List.reverse_cons]
  | cons i items ih =>
    intro j fuel seen r hread hfuel
    obtain ⟨hj, hrest⟩ := List.forall_mem_cons.mp hread
    rw [listed_cons_cons] at hfuel ⊢
    rw [List.length_append, List.length_cons] at hfuel
    obtain ⟨fuel, rfl⟩ : ∃ n, fuel = n + 1 := ⟨fuel - 1, by omega⟩
    rw [List.append_assoc, List.cons_append, readItems_next hj (by omega), ih hrest (by omega),
      List.reverse_cons, List.append_assoc]
    rfl

theorem readValue_opening (hdepth : 1 < depth) (hcs : Opens cs) :
    readValue (fuel + 1) depth ('[' :: cs) = readItems fuel (depth - 1) [] cs := by
  have hbracket : skipGap ('[' :: cs) = '[' :: cs := rfl
  simp only [readValue, hbracket, hcs.skipGap, if_neg (Nat.not_le.mpr hdepth)]
  obtain ⟨c, rest, rfl, -, hc⟩ := hcs
  split
  · rename_i h
    exact absurd (List.cons.inj h).1 hc
  · rfl

theorem readBack_arr (hdepth : 0 < depth) {items : List Json}
    (hopens : ∀ j ∈ items, Opens (chars j)) (hread : ∀ j ∈ items, ReadBack depth j) :
    ReadBack (depth + 1) (.arr items) := by
  refine ReadBack.of_succ fun {fuel} {r} hfuel _ => ?_
  rw [chars_arr, List.length_cons, List.length_append, List.length_singleton] at hfuel
  rw [chars_arr, List.cons_append, List.append_assoc]
  cases items with
  | nil =>
    have hopening : skipGap ('[' :: ']' :: r) = '[' :: ']' :: r := rfl
    have hclosing : skipGap (']' :: r) = ']' :: r := rfl
    change readValue (fuel + 1) (depth + 1) ('[' :: ']' :: r) = _
    simp only [readValue, hopening, hclosing, if_neg (Nat.not_le.mpr (Nat.succ_lt_succ hdepth))]
  | cons j items =>
    have hlisted : Opens (listed chars (j :: items) ++ ([']'] ++ r)) := by
      obtain ⟨rest, hrest⟩ := exists_listed_cons chars j items
      rw [hrest, List.append_assoc]
      exact (hopens j List.mem_cons_self).append _
    obtain ⟨fuel, rfl⟩ : ∃ n, fuel = n + 1 := ⟨fuel - 1, by omega⟩
    rw [readValue_opening (Nat.succ_lt_succ hdepth) hlisted]
    exact readItems_listed hread (by omega)

theorem skipGap_quote (cs : List Char) : skipGap ('"' :: cs) = '"' :: cs := rfl

theorem skipGap_colon (cs : List Char) : skipGap (':' :: cs) = ':' :: cs := rfl

theorem readMembers_next {m : String × Json} {seen : List (String × Json)} {r : List Char}
    (hread : ReadBack depth m.2) (hfuel : (memberChars m).length < fuel) :
    readMembers (fuel + 1) depth seen (memberChars m ++ ',' :: r) =
      readMembers fuel depth (m :: seen) r := by
  have hvalue := hread (length_chars_lt hfuel) (follows_comma r)
  have hcomma : skipGap (',' :: r) = ',' :: r := rfl
  rw [memberChars_append, readMembers, skipGap_quote]
  simp only [readString_quoted, skipGap_colon, hvalue, hcomma]

theorem readMembers_last {m : String × Json} {seen : List (String × Json)} {r : List Char}
    (hread : ReadBack depth m.2) (hfuel : (memberChars m).length < fuel) :
    readMembers (fuel + 1) depth seen (memberChars m ++ '\x7d' :: r) =
      some (.obj (m :: seen).reverse, r) := by
  have hvalue := hread (length_chars_lt hfuel) (follows_brace r)
  have hbrace : skipGap ('\x7d' :: r) = '\x7d' :: r := rfl
  rw [memberChars_append, readMembers, skipGap_quote]
  simp only [readString_quoted, skipGap_colon, hvalue, hbrace]

/-- Members are read one after the other. -/
theorem readMembers_listed {members : List (String × Json)} : ∀ {m : String × Json} {fuel : Nat}
    {seen : List (String × Json)} {r : List Char}, (∀ m' ∈ m :: members, ReadBack depth m'.2) →
    (listed memberChars (m :: members)).length < fuel →
    readMembers (fuel + 1) depth seen (listed memberChars (m :: members) ++ '\x7d' :: r) =
      some (.obj (seen.reverse ++ m :: members), r) := by
  induction members with
  | nil =>
    intro m fuel seen r hread hfuel
    rw [listed_singleton] at hfuel ⊢
    rw [readMembers_last (hread m List.mem_cons_self) hfuel, List.reverse_cons]
  | cons m' members ih =>
    intro m fuel seen r hread hfuel
    obtain ⟨hm, hrest⟩ := List.forall_mem_cons.mp hread
    rw [listed_cons_cons] at hfuel ⊢
    rw [List.length_append, List.length_cons] at hfuel
    obtain ⟨fuel, rfl⟩ : ∃ n, fuel = n + 1 := ⟨fuel - 1, by omega⟩
    rw [List.append_assoc, List.cons_append, readMembers_next hm (by omega),
      ih hrest (by omega), List.reverse_cons, List.append_assoc]
    rfl

theorem readValue_brace (hdepth : 1 < depth) (cs : List Char) :
    readValue (fuel + 1) depth ('\x7b' :: '"' :: cs) =
      readMembers fuel (depth - 1) [] ('"' :: cs) := by
  have hbrace : skipGap ('\x7b' :: '"' :: cs) = '\x7b' :: '"' :: cs := rfl
  simp only [readValue, hbrace, skipGap_quote, if_neg (Nat.not_le.mpr hdepth)]
  rfl

theorem readBack_obj (hdepth : 0 < depth) {members : List (String × Json)}
    (hread : ∀ m ∈ members, ReadBack depth m.2) : ReadBack (depth + 1) (.obj members) := by
  refine ReadBack.of_succ fun {fuel} {r} hfuel _ => ?_
  rw [chars_obj, List.length_cons, List.length_append, List.length_singleton] at hfuel
  rw [chars_obj, List.cons_append, List.append_assoc]
  cases members with
  | nil =>
    have hopening : skipGap ('\x7b' :: '\x7d' :: r) = '\x7b' :: '\x7d' :: r := rfl
    have hclosing : skipGap ('\x7d' :: r) = '\x7d' :: r := rfl
    change readValue (fuel + 1) (depth + 1) ('\x7b' :: '\x7d' :: r) = _
    simp only [readValue, hopening, hclosing, if_neg (Nat.not_le.mpr (Nat.succ_lt_succ hdepth))]
  | cons m members =>
    obtain ⟨cs, hcs⟩ : ∃ cs, listed memberChars (m :: members) ++ (['\x7d'] ++ r) = '"' :: cs := by
      obtain ⟨rest, hrest⟩ := exists_listed_cons memberChars m members
      exact ⟨_, by rw [hrest, List.append_assoc, memberChars_append]⟩
    obtain ⟨fuel, rfl⟩ : ∃ n, fuel = n + 1 := ⟨fuel - 1, by omega⟩
    rw [hcs, readValue_brace (Nat.succ_lt_succ hdepth), ← hcs]
    exact readMembers_listed hread (by omega)

/-! ## Plain values -/

/-- A value of texts and of integers of 64 bits, nested no deeper than a number. -/
inductive Plain : Nat → Json → Prop
  | null {d : Nat} : Plain d .null
  | bool {d : Nat} (b : Bool) : Plain d (.bool b)
  | int {d : Nat} {n : Int} : IsWord n → Plain d (.int n)
  | str {d : Nat} (s : String) : Plain d (.str s)
  | arr {d : Nat} {items : List Json} : (∀ j ∈ items, Plain d j) → Plain (d + 1) (.arr items)
  | obj {d : Nat} {members : List (String × Json)} : (∀ m ∈ members, Plain d m.2) →
      Plain (d + 1) (.obj members)

theorem Plain.opens {d : Nat} {j : Json} (h : Plain d j) : Opens (chars j) := by
  cases h with
  | null => exact ⟨'n', _, rfl, rfl, by decide⟩
  | bool b => cases b <;> exact ⟨_, _, rfl, rfl, by decide⟩
  | @int _ n _ =>
    obtain ⟨c, cs, hcs, hc⟩ := exists_toList_toString n
    have hchars : chars (.int n) = c :: cs := hcs
    rw [hchars]
    exact opens_of_digit hc cs
  | str s => exact ⟨'"', _, by rw [chars, render, toList_quote], rfl, by decide⟩
  | arr _ => exact ⟨'[', _, chars_arr _, rfl, by decide⟩
  | obj _ => exact ⟨'\x7b', _, chars_obj _, rfl, by decide⟩

/-- **Plain values are read back from their texts.** -/
theorem Plain.readBack {d : Nat} {j : Json} (h : Plain d j) : ∀ {depth : Nat}, d < depth →
    ReadBack depth j := by
  induction h with
  | null =>
    intro depth _
    exact ReadBack.of_succ fun _ _ => rfl
  | bool b =>
    intro depth _
    cases b <;> exact ReadBack.of_succ fun _ _ => rfl
  | int hn =>
    intro depth _
    exact readBack_int hn
  | str s =>
    intro depth _
    refine ReadBack.of_succ fun _ _ => ?_
    rw [chars, render]
    exact readValue_quote _ _ s _
  | @arr d items hitems ih =>
    intro depth hd
    obtain ⟨depth, rfl⟩ : ∃ n, depth = n + 1 := ⟨depth - 1, by omega⟩
    exact readBack_arr (by omega) (fun j hj => (hitems j hj).opens) fun j hj => ih j hj (by omega)
  | @obj d members _ ih =>
    intro depth hd
    obtain ⟨depth, rfl⟩ : ∃ n, depth = n + 1 := ⟨depth - 1, by omega⟩
    exact readBack_obj (by omega) fun m hm => ih m hm (by omega)

/-- **The document of a plain value is read back.** -/
theorem Plain.parse?_render {d : Nat} {j : Json} (h : Plain d j) (hd : d < maxDepth) :
    parse? j.render = some j := by
  have hread : readValue ((chars j).length + 1) maxDepth (chars j ++ []) = some (j, []) :=
    h.readBack hd (Nat.lt_succ_self _) nofun
  rw [List.append_nil] at hread
  rw [chars] at hread
  simp only [parse?, hread]
  rfl

theorem plain_strs {d : Nat} (ss : List String) : Plain (d + 1) (strs ss) := by
  refine .arr fun j hj => ?_
  obtain ⟨s, -, rfl⟩ := List.mem_map.mp hj
  exact .str s

/-- The document of a list of texts is read back. -/
theorem parse?_render_strs (ss : List String) : parse? (strs ss).render = some (strs ss) :=
  (plain_strs (d := 0) ss).parse?_render (by decide)

end BalancerImport.Json
