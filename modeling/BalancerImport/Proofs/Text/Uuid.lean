import BalancerImport.Uuid
import Mathlib.Data.Nat.Digits.Defs

/-!
# Texts of identifiers

The canonical text of an identifier is read back as that identifier, so that it can stand for it.

* `Uuid.Fits`: an identifier of 128 bits;
* `ofDigits?_digits`: its digits spell it; `groups`: its digits as the text groups them;
* **`Uuid.parse?_text`**: its text is read back; `Uuid.text_eq_iff`: texts tell identifiers apart.
-/

namespace BalancerImport.Uuid

variable {u v : Uuid} {cs : List Char} {n : Nat}

/-- An identifier of 128 bits. -/
def Fits (u : Uuid) : Prop := u.value < 2 ^ 128

instance : Decidable u.Fits := inferInstanceAs (Decidable (u.value < 2 ^ 128))

/-! ## Digits -/

theorem ofDigits?_zero_cons (cs : List Char) : ofDigits? ('0' :: cs) = ofDigits? cs := by
  have hzero : Json.hexValue? '0' = some 0 := by decide
  unfold ofDigits?
  rw [List.mapM_cons, hzero]
  cases cs.mapM Json.hexValue? <;> rfl

theorem ofDigits?_zeros (k : Nat) (cs : List Char) :
    ofDigits? (List.replicate k '0' ++ cs) = ofDigits? cs := by
  induction k with
  | zero => rfl
  | succ k ih => rw [List.replicate_succ, List.cons_append, ofDigits?_zero_cons, ih]

theorem ofDigits?_concat {c : Char} {d : Nat} (h : ofDigits? cs = some ⟨n⟩)
    (hc : Json.hexValue? c = some d) : ofDigits? (cs ++ [c]) = some ⟨n * 16 + d⟩ := by
  obtain ⟨ds, hds, he⟩ := Option.map_eq_some_iff.mp h
  have hn : ds.foldl (fun n d => n * 16 + d) 0 = n := congrArg Uuid.value he
  unfold ofDigits?
  rw [List.mapM_append, hds, List.mapM_cons, hc]
  simp [hn]

theorem digitChar_cases : ∀ d < 16, Json.hexValue? (Nat.digitChar d) = some d ∧
    Nat.digitChar d ∈ "0123456789abcdef".toList := by decide

/-- The digits of a number spell it. -/
theorem ofDigits?_hexDigits (n : Nat) : ofDigits? (Text.hexDigits n) = some ⟨n⟩ := by
  induction n using Nat.strongRecOn with
  | ind n ih =>
    by_cases hn : n < 16
    · have hnil : ofDigits? [] = some ⟨0⟩ := rfl
      rw [Text.hexDigits, Nat.toDigits_of_lt_base hn]
      simpa using ofDigits?_concat hnil (digitChar_cases n hn).1
    · have hmod : n % 16 < 16 := Nat.mod_lt n (by decide)
      rw [Text.hexDigits, Nat.toDigits_of_base_le (by decide) (by omega)]
      have hspelled := ofDigits?_concat (ih (n / 16) (by omega)) (digitChar_cases _ hmod).1
      rwa [Nat.div_add_mod' n 16] at hspelled

theorem mem_hexDigits (n : Nat) : ∀ c ∈ Text.hexDigits n, c ∈ "0123456789abcdef".toList := by
  induction n using Nat.strongRecOn with
  | ind n ih =>
    intro c hc
    by_cases hn : n < 16
    · rw [Text.hexDigits, Nat.toDigits_of_lt_base hn] at hc
      rw [List.mem_singleton.mp hc]
      exact (digitChar_cases n hn).2
    · have hmod : n % 16 < 16 := Nat.mod_lt n (by decide)
      rw [Text.hexDigits, Nat.toDigits_of_base_le (by decide) (by omega)] at hc
      rcases List.mem_append.mp hc with hc | hc
      · exact ih (n / 16) (by omega) c hc
      · rw [List.mem_singleton.mp hc]
        exact (digitChar_cases _ hmod).2

theorem ofDigits?_digits (u : Uuid) : ofDigits? u.digits = some u := by
  rw [digits, ofDigits?_zeros]
  exact ofDigits?_hexDigits u.value

theorem mem_digits {c : Char} (h : c ∈ u.digits) : c ∈ "0123456789abcdef".toList := by
  rcases List.mem_append.mp h with h | h
  · rw [(List.mem_replicate.mp h).2]
    decide
  · exact mem_hexDigits u.value c h

theorem length_digits (h : u.Fits) : u.digits.length = 32 := by
  have hle : (Text.hexDigits u.value).length ≤ 32 :=
    Nat.toDigits_length 16 u.value 32 (by decide) (Nat.lt_of_lt_of_eq h (by decide))
  simp only [digits, List.length_append, List.length_replicate]
  omega

/-! ## Texts -/

/-- The digits in five groups. -/
def groups (u : Uuid) : List (List Char) :=
  [u.digits.take 8, (u.digits.drop 8).take 4, (u.digits.drop 12).take 4, (u.digits.drop 16).take 4,
    u.digits.drop 20]

theorem flatten_groups (u : Uuid) : u.groups.flatten = u.digits := by
  have h₃ : (u.digits.drop 16).take 4 ++ u.digits.drop 20 = u.digits.drop 16 := by
    simpa using List.take_append_drop 4 (u.digits.drop 16)
  have h₂ : (u.digits.drop 12).take 4 ++ u.digits.drop 16 = u.digits.drop 12 := by
    simpa using List.take_append_drop 4 (u.digits.drop 12)
  have h₁ : (u.digits.drop 8).take 4 ++ u.digits.drop 12 = u.digits.drop 8 := by
    simpa using List.take_append_drop 4 (u.digits.drop 8)
  simp only [groups, List.flatten_cons, List.flatten_nil, List.append_nil]
  rw [h₃, h₂, h₁, List.take_append_drop]

theorem length_groups (h : u.Fits) : u.groups.map List.length = [8, 4, 4, 4, 12] := by
  simp [groups, length_digits h]

theorem toList_text (u : Uuid) : u.text.toList = ['-'].intercalate u.groups := by
  simp [text, groups, List.intercalate]

theorem splitOn_text (u : Uuid) : u.text.toList.splitOn '-' = u.groups := by
  rw [toList_text]
  refine List.splitOn_intercalate '-' (fun g hg hm => ?_) (by simp [groups])
  have hdigit : '-' ∈ u.digits := by
    rw [← flatten_groups]
    exact List.mem_flatten.mpr ⟨g, hg, hm⟩
  exact absurd (mem_digits hdigit) (by decide)

/-- A text of an identifier does not look like a URN. -/
theorem take_text_ne (h : u.Fits) : (u.text.toList.take 9).map Char.toLower ≠ "urn:uuid:".toList := by
  have hlength := length_digits h
  cases hds : u.digits with
  | nil => simp [hds] at hlength
  | cons c ds =>
    have hc : c ∈ "0123456789abcdef".toList := mem_digits (hds ▸ List.mem_cons_self)
    have hhead : ((u.text.toList.take 9).map Char.toLower).head? = some c.toLower := by
      simp [text, hds]
    have hlower : ("0123456789abcdef".toList.all fun c => c.toLower != 'u') = true := by decide
    intro he
    rw [he] at hhead
    exact bne_iff_ne.mp (List.all_eq_true.mp hlower c hc) (Option.some.inj hhead).symm

/-- **The text of an identifier is read back.** -/
theorem parse?_text (h : u.Fits) : parse? u.text = some u := by
  have hlength : u.text.toList.length = 36 := by simp [text, length_digits h]
  have hgrouped : parseGrouped? u.text.toList = some u := by
    unfold parseGrouped?
    rw [splitOn_text, if_pos (length_groups h), flatten_groups, ofDigits?_digits]
  unfold parse?
  simp only [hlength, if_neg (take_text_ne h), hgrouped]
  simp

/-- Texts tell identifiers apart. -/
theorem text_eq_iff (hu : u.Fits) (hv : v.Fits) : u.text = v.text ↔ u = v := by
  refine ⟨fun h => ?_, congrArg text⟩
  have hread := parse?_text hu
  rw [h, parse?_text hv] at hread
  exact (Option.some.inj hread).symm

end BalancerImport.Uuid
