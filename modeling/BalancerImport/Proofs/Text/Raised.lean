import BalancerImport.Proofs.Lists
import BalancerImport.Text.Named
import Mathlib.Data.List.DropRight
import Mathlib.Data.List.TakeWhile

/-!
# Words in canonical form

A word is looked up trimmed and in upper case. Whoever has put it into that form once need not do so
again: the upper-case form of a character is in upper case and, unless the character is blank, holds
no blank.

* `EndsFree`, `stripWhile_eq_self`: when nothing is stripped off; `trim_trim`;
  `stripWhile_padded`: what is stripped off;
* `upperChar_of_mem_upperChar`, `isBlank_of_mem_upperChar`: the case mapping, from its tables;
* `upper_upper`, `trim_upper_trim`;
* **`Named.raised_raised`**: the canonical form of a word is canonical.
-/

namespace BalancerImport.Text

/-! ## Stripping -/

section

variable {α β : Type} {p : α → Bool} {q : β → Bool}

/-- No element at the two ends of a list satisfies `p`. -/
def EndsFree (p : α → Bool) (xs : List α) : Prop :=
  (∀ a ∈ xs.head?, p a = false) ∧ ∀ a ∈ xs.getLast?, p a = false

instance (p : α → Bool) (xs : List α) : Decidable (EndsFree p xs) :=
  inferInstanceAs (Decidable (_ ∧ _))

theorem stripWhile_eq (p : α → Bool) (xs : List α) :
    stripWhile p xs = (xs.dropWhile p).rdropWhile p := rfl

theorem stripWhile_eq_self {xs : List α} (h : EndsFree p xs) : stripWhile p xs = xs := by
  have hleft : xs.dropWhile p = xs := by
    cases xs with
    | nil => rfl
    | cons a xs => rw [List.dropWhile_cons_of_neg (by simp [h.1 a rfl])]
  rw [stripWhile_eq, hleft, List.rdropWhile_eq_self_iff]
  intro hne
  simp [h.2 _ (List.getLast?_eq_some_getLast hne)]

theorem endsFree_stripWhile (p : α → Bool) (xs : List α) : EndsFree p (stripWhile p xs) := by
  rw [stripWhile_eq]
  constructor
  · intro a ha
    obtain ⟨rest, hrest⟩ := List.rdropWhile_prefix p (xs.dropWhile p)
    have hhead : (xs.dropWhile p).head? = some a := by
      rw [← hrest, List.head?_append, Option.mem_def.mp ha]
      rfl
    have hnot := List.head?_dropWhile_not p xs
    rw [hhead] at hnot
    exact hnot
  · intro a ha
    have hne : (xs.dropWhile p).rdropWhile p ≠ [] := by
      rintro he
      simp [he] at ha
    have hlast := List.rdropWhile_last_not p (xs.dropWhile p) hne
    rw [List.getLast?_eq_some_getLast hne, Option.mem_some_iff] at ha
    rw [ha] at hlast
    exact Bool.eq_false_iff.mpr hlast

theorem trimChars_trimChars (cs : List Char) : trimChars (trimChars cs) = trimChars cs :=
  stripWhile_eq_self (endsFree_stripWhile isBlank cs)

theorem trim_trim (s : String) : trim (trim s) = trim s := by
  rw [trim, trim, String.toList_ofList, trimChars_trimChars]

/-- What is stripped off makes no difference. -/
theorem stripWhile_padded {before xs after : List α} (hbefore : ∀ a ∈ before, p a = true)
    (hafter : ∀ a ∈ after, p a = true) :
    stripWhile p (before ++ xs ++ after) = stripWhile p xs := by
  rw [stripWhile_eq, stripWhile_eq, List.append_assoc, List.dropWhile_append_of_pos hbefore,
    List.dropWhile_append]
  split
  · rename_i hempty
    rw [List.isEmpty_iff.mp hempty, List.dropWhile_eq_nil_iff.mpr hafter]
  · rw [List.rdropWhile, List.reverse_append, List.dropWhile_append_of_pos (by simpa using hafter)]
    rfl

theorem exists_padded (p : α → Bool) (xs : List α) : ∃ before after, (∀ a ∈ before, p a = true) ∧
    (∀ a ∈ after, p a = true) ∧ xs = before ++ stripWhile p xs ++ after := by
  refine ⟨xs.takeWhile p, (xs.dropWhile p).rtakeWhile p, fun _ => List.mem_takeWhile_imp,
    fun _ => List.mem_rtakeWhile_imp, ?_⟩
  rw [stripWhile_eq, List.append_assoc, List.rdropWhile_append_rtakeWhile,
    List.takeWhile_append_dropWhile]

theorem endsFree_of_forall {xs : List α} (h : ∀ a ∈ xs, p a = false) : EndsFree p xs :=
  ⟨fun a ha => h a (List.mem_of_head? ha), fun a ha => h a (List.mem_of_getLast? ha)⟩

theorem endsFree_enclosed {a b : α} {xs : List α} (ha : p a = false) (hb : p b = false) :
    EndsFree p (a :: (xs ++ [b])) := by
  refine ⟨by simpa using ha, ?_⟩
  rw [← List.cons_append, List.getLast?_concat]
  simpa using hb

theorem EndsFree.append {xs ys : List α} (h : EndsFree p xs) (h' : EndsFree p ys) :
    EndsFree p (xs ++ ys) := by
  constructor
  · intro a ha
    rw [List.head?_append, Option.mem_def, Option.or_eq_some_iff] at ha
    exact ha.elim (h.1 a) fun ha => h'.1 a ha.2
  · intro a ha
    rw [List.getLast?_append, Option.mem_def, Option.or_eq_some_iff] at ha
    exact ha.elim (h'.2 a) fun ha => h.2 a ha.2

/-- Images that are not empty, and that are free of what `q` holds of where `p` does not hold. -/
theorem EndsFree.flatMap {f : α → List β} (hne : ∀ a, f a ≠ [])
    (hf : ∀ a, p a = false → ∀ b ∈ f a, q b = false) {xs : List α} (h : EndsFree p xs) :
    EndsFree q (xs.flatMap f) := by
  constructor
  · intro b hb
    cases xs with
    | nil => simp at hb
    | cons a xs =>
      refine hf a (h.1 a rfl) b ?_
      rw [List.flatMap_cons, List.head?_append_of_ne_nil _ (hne a)] at hb
      exact List.mem_of_head? hb
  · intro b hb
    rcases List.eq_nil_or_concat xs with rfl | ⟨xs, a, rfl⟩
    · simp at hb
    · rw [List.concat_eq_append] at h hb
      refine hf a (h.2 a (by simp)) b ?_
      rw [List.flatMap_append, List.flatMap_singleton,
        List.getLast?_append_of_ne_nil _ (hne a)] at hb
      exact List.mem_of_getLast? hb

end

/-! ## Sets of numbers -/

/-- The set of some numbers, as the bits of one. The sets of two long lists are compared at once. -/
def bits (ns : List Nat) : Nat := ns.foldr (fun n m => 1 <<< n ||| m) 0

theorem testBit_bits (ns : List Nat) (n : Nat) : (bits ns).testBit n = decide (n ∈ ns) := by
  induction ns with
  | nil => simp [bits]
  | cons k ns ih =>
    have h : bits (k :: ns) = 1 <<< k ||| bits ns := rfl
    rw [h, Nat.testBit_or, ih, Nat.shiftLeft_eq, Nat.one_mul, Nat.testBit_two_pow]
    simp [eq_comm]

theorem disjoint_of_bits {ms ns : List Nat} (h : bits ms &&& bits ns = 0) : ms.Disjoint ns := by
  intro n hm hn
  have hbit := congrArg (Nat.testBit · n) h
  simp [testBit_bits, hm, hn] at hbit

/-! ## The tables of upper case -/

/-- The characters of a run of single mappings. -/
def runKeys : Nat × Nat × Nat × Int → List Nat
  | (first, last, step, _) => (List.range ((last - first) / step + 1)).map fun k => first + step * k

/-- What a run of single mappings makes of its characters. -/
def runImages (run : Nat × Nat × Nat × Int) : List Nat :=
  (runKeys run).map fun n : Nat => (Char.ofNat (Int.toNat (n + run.2.2.2))).toNat

/-- The characters that upper case may change. -/
def raisedKeys : List Nat :=
  List.range' 97 26 ++ upperSpecials.map Prod.fst ++ upperRuns.flatMap runKeys

/-- The characters that upper case makes of others. -/
def raisedImages : List Nat :=
  List.range' 65 26 ++ (upperSpecials.flatMap fun s => s.2.map fun n => (Char.ofNat n).toNat) ++
    upperRuns.flatMap runImages

/-- The blank characters. -/
def blanks : List Nat :=
  List.range' 9 5 ++ [0x20, 0x85, 0xA0, 0x1680] ++ List.range' 0x2000 11 ++
    [0x2028, 0x2029, 0x202F, 0x205F, 0x3000]

theorem mem_runKeys {n first last step : Nat} (shift : Int) (hfirst : first ≤ n) (hlast : n ≤ last)
    (hstep : (n - first) % step = 0) : n ∈ runKeys (first, last, step, shift) := by
  refine List.mem_map.mpr ⟨(n - first) / step, ?_, ?_⟩
  · rw [List.mem_range, Nat.lt_succ_iff]
    exact Nat.div_le_div_right (by omega)
  · rw [Nat.mul_div_cancel' (Nat.dvd_of_mod_eq_zero hstep)]
    omega

theorem toUpper_ascii : ∀ n < 128, (Char.ofNat n).toUpper = Char.ofNat n ∧ n ∉ List.range' 97 26 ∨
    (Char.ofNat n).toUpper.toNat ∈ List.range' 65 26 ∧ n ∈ List.range' 97 26 := by
  decide +kernel

theorem ne_nil_of_mem_specials : ∀ s ∈ upperSpecials, s.2 ≠ [] := by decide +kernel

/-- A character with a special mapping is changed into others. -/
theorem raised_of_special {c : Char} {image : List Nat}
    (h : upperSpecials.lookup c.toNat = some image) : c.toNat ∈ raisedKeys ∧
      image.map Char.ofNat ≠ [] ∧ ∀ d ∈ image.map Char.ofNat, d.toNat ∈ raisedImages := by
  have hmem : (c.toNat, image) ∈ upperSpecials := mem_of_lookup h
  refine ⟨?_, ?_, fun d hd => ?_⟩
  · have hkey : c.toNat ∈ upperSpecials.map Prod.fst := List.mem_map_of_mem hmem
    simp [raisedKeys, hkey]
  · simpa using ne_nil_of_mem_specials _ hmem
  · obtain ⟨n, hn, rfl⟩ := List.mem_map.mp hd
    have hfound : (Char.ofNat n).toNat ∈
        upperSpecials.flatMap fun s => s.2.map fun n => (Char.ofNat n).toNat :=
      List.mem_flatMap.mpr ⟨_, hmem, List.mem_map_of_mem hn⟩
    simp [raisedImages, hfound]

/-- A character is left as it is by the runs, or it is in one and changed into another. -/
theorem mapByRuns_cases (c : Char) : mapByRuns upperRuns c = c ∨
    c.toNat ∈ raisedKeys ∧ (mapByRuns upperRuns c).toNat ∈ raisedImages := by
  simp only [mapByRuns]
  split
  · rename_i first last step shift hfind
    have hmem := List.mem_of_find?_eq_some hfind
    have hholds := List.find?_some hfind
    simp only [Bool.and_eq_true, decide_eq_true_eq, beq_iff_eq] at hholds
    have hkey := mem_runKeys shift hholds.1.1 hholds.1.2 hholds.2
    have hfound : c.toNat ∈ upperRuns.flatMap runKeys := List.mem_flatMap.mpr ⟨_, hmem, hkey⟩
    have himage : (Char.ofNat (Int.toNat (c.toNat + shift))).toNat ∈ upperRuns.flatMap runImages :=
      List.mem_flatMap.mpr ⟨_, hmem, List.mem_map.mpr ⟨_, hkey, rfl⟩⟩
    exact .inr ⟨by simp [raisedKeys, hfound], by simp [raisedImages, himage]⟩
  · exact .inl rfl

/-- A character is in upper case, or it is one that upper case may change, into others. -/
theorem upperChar_cases (c : Char) : upperChar c = [c] ∨
    c.toNat ∈ raisedKeys ∧ upperChar c ≠ [] ∧ ∀ d ∈ upperChar c, d.toNat ∈ raisedImages := by
  unfold upperChar
  split
  · rename_i hascii
    have h := toUpper_ascii c.toNat hascii
    rw [Char.ofNat_toNat] at h
    rcases h with ⟨hsame, -⟩ | ⟨himage, hkey⟩
    · exact .inl (by rw [hsame])
    · refine .inr ⟨by simp [raisedKeys, hkey], by simp, fun d hd => ?_⟩
      obtain rfl := List.mem_singleton.mp hd
      simp [raisedImages, himage]
  · unfold mapChar
    split
    · rename_i image himage
      exact .inr (raised_of_special himage)
    · rcases mapByRuns_cases c with hsame | ⟨hkey, himage⟩
      · exact .inl (by rw [hsame])
      · exact .inr ⟨hkey, by simp, by simpa using himage⟩

theorem disjoint_keys_images : raisedKeys.Disjoint raisedImages :=
  disjoint_of_bits (by decide +kernel)

theorem disjoint_blanks_images : blanks.Disjoint raisedImages :=
  disjoint_of_bits (by decide +kernel)

theorem mem_blanks {c : Char} (h : isBlank c = true) : c.toNat ∈ blanks := by
  simp only [isBlank, Bool.or_eq_true, Bool.and_eq_true, decide_eq_true_eq, beq_iff_eq] at h
  simp only [blanks, List.mem_append, List.mem_range'_1, List.mem_cons, List.not_mem_nil]
  omega

theorem upperChar_ne_nil (c : Char) : upperChar c ≠ [] := by
  rcases upperChar_cases c with h | ⟨-, h, -⟩
  · simp [h]
  · exact h

/-- **What upper case makes of a character is in upper case.** -/
theorem upperChar_of_mem_upperChar {c d : Char} (h : d ∈ upperChar c) : upperChar d = [d] := by
  rcases upperChar_cases c with hc | ⟨-, -, himages⟩
  · rw [hc, List.mem_singleton] at h
    rw [h, hc]
  · rcases upperChar_cases d with hd | ⟨hkey, -, -⟩
    · exact hd
    · exact absurd (himages d h) (disjoint_keys_images hkey)

/-- Upper case makes no blanks. -/
theorem isBlank_of_mem_upperChar {c : Char} (hc : isBlank c = false) :
    ∀ d ∈ upperChar c, isBlank d = false := by
  intro d hd
  rcases upperChar_cases c with h | ⟨-, -, himages⟩
  · rw [h, List.mem_singleton] at hd
    rwa [hd]
  · refine Bool.eq_false_iff.mpr fun hblank => ?_
    exact disjoint_blanks_images (mem_blanks hblank) (himages d hd)

/-! ## Texts -/

/-- **A text in upper case is in upper case.** -/
theorem upper_upper (s : String) : upper (upper s) = upper s := by
  have hfixed : ∀ c, (upperChar c).flatMap upperChar = upperChar c := by
    intro c
    rw [List.flatMap_congr fun d hd => upperChar_of_mem_upperChar hd]
    simp
  simp only [upper, String.toList_ofList, List.flatMap_assoc, hfixed]

/-- A trimmed text is still trimmed in upper case. -/
theorem trim_upper_trim (s : String) : trim (upper (trim s)) = upper (trim s) := by
  have hfree := (endsFree_stripWhile isBlank s.toList).flatMap upperChar_ne_nil
    fun c hc => isBlank_of_mem_upperChar hc
  simp only [trim, upper, trimChars, String.toList_ofList, stripWhile_eq_self hfree]

end BalancerImport.Text

namespace BalancerImport.Named

/-- **The canonical form of a word is canonical.** -/
theorem raised_raised (s : String) : raised (raised s) = raised s := by
  simp only [raised, Text.trim_upper_trim, Text.upper_upper]

end BalancerImport.Named
