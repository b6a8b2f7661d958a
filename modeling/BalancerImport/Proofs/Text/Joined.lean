import BalancerImport.Text.Quoted
import Mathlib.Data.List.Basic
import Mathlib.Data.Nat.Digits.Defs

/-!
# Texts that are put together

Texts that are joined by a separator can be told apart again where it is known how often the
separator occurs in them. In the digits of a number and in a bracketed list of numbers there is no
hyphen.

* `append_cons_inj_of_count`, `append_cons_inj_of_not_mem`: a text that is taken apart at a separator,
  read from its beginning or from its end;
* `intercalate_inj`: parts without the separator that stands between them;
* `eq_of_toString_eq`: the digits of a number tell it;
* **`Text.bracketedNumbers_inj`**: so does a bracketed list, its numbers and their order.
-/

namespace BalancerImport

/-! ## Separators -/

section

variable {α : Type} [BEq α] [LawfulBEq α] {c : α} {rest : List α}

/-- Where the separator occurs equally often before the place, the parts are the same. -/
theorem append_cons_inj_of_count : ∀ {xs ys as bs : List α}, xs.count c = ys.count c →
    xs ++ c :: as = ys ++ c :: bs → xs = ys ∧ as = bs
  | [], [], _, _, _, h => ⟨rfl, (List.cons.inj h).2⟩
  | [], y :: ys, _, _, hcount, h => by
    obtain ⟨rfl, -⟩ := List.cons.inj h
    rw [List.count_nil, List.count_cons_self] at hcount
    exact nomatch hcount
  | x :: xs, [], _, _, hcount, h => by
    obtain ⟨rfl, -⟩ := List.cons.inj h
    rw [List.count_nil, List.count_cons_self] at hcount
    exact nomatch hcount
  | x :: xs, y :: ys, _, _, hcount, h => by
    obtain ⟨rfl, htail⟩ := List.cons.inj h
    rw [List.count_cons, List.count_cons, Nat.add_right_cancel_iff] at hcount
    obtain ⟨rfl, rfl⟩ := append_cons_inj_of_count hcount htail
    exact ⟨rfl, rfl⟩

/-- Where it does not occur after the place, they are too. -/
theorem append_cons_inj_of_not_mem {xs ys as bs : List α} (has : c ∉ as) (hbs : c ∉ bs)
    (h : xs ++ c :: as = ys ++ c :: bs) : xs = ys ∧ as = bs := by
  refine append_cons_inj_of_count ?_ h
  have hcount := congrArg (List.count c) h
  rwa [List.count_append, List.count_append, List.count_cons_self, List.count_cons_self,
    List.count_eq_zero.mpr has, List.count_eq_zero.mpr hbs, Nat.add_right_cancel_iff] at hcount

/-- **Parts that are not empty and do not hold the separator between them can be told apart.** -/
theorem intercalate_inj : ∀ {xs ys : List (List α)}, (∀ x ∈ xs, x ≠ [] ∧ c ∉ x) →
    (∀ y ∈ ys, y ≠ [] ∧ c ∉ y) → (c :: rest).intercalate xs = (c :: rest).intercalate ys → xs = ys
  | [], [], _, _, _ => rfl
  | [], [y], _, hys, h => absurd h.symm (by simpa using (hys y List.mem_cons_self).1)
  | [x], [], hxs, _, h => absurd h (by simpa using (hxs x List.mem_cons_self).1)
  | [], _ :: _ :: _, _, _, h => absurd h.symm (by simp)
  | _ :: _ :: _, [], _, _, h => absurd h (by simp)
  | [x], [y], _, _, h => by simpa using h
  | [x], y :: z :: ys, hxs, _, h => by
    have hmem : c ∈ (c :: rest).intercalate [x] := h ▸ by simp
    exact absurd hmem (by simpa using (hxs x List.mem_cons_self).2)
  | x :: w :: xs, [y], _, hys, h => by
    have hmem : c ∈ (c :: rest).intercalate [y] := h ▸ by simp
    exact absurd hmem (by simpa using (hys y List.mem_cons_self).2)
  | x :: w :: xs, y :: z :: ys, hxs, hys, h => by
    obtain ⟨⟨-, hx⟩, hws⟩ := List.forall_mem_cons.mp hxs
    obtain ⟨⟨-, hy⟩, hzs⟩ := List.forall_mem_cons.mp hys
    simp only [List.intercalate_cons_cons, List.append_assoc, List.cons_append] at h
    have hcount : x.count c = y.count c := by
      rw [List.count_eq_zero.mpr hx, List.count_eq_zero.mpr hy]
    obtain ⟨rfl, htail⟩ := append_cons_inj_of_count hcount h
    rw [intercalate_inj hws hzs (List.append_cancel_left htail)]

omit [BEq α] [LawfulBEq α] in
theorem not_mem_intercalate {sep : List α} (hsep : c ∉ sep) : ∀ {xs : List (List α)},
    (∀ x ∈ xs, c ∉ x) → c ∉ sep.intercalate xs
  | [], _ => by simp
  | [x], h => by simpa using h
  | x :: y :: xs, h => by
    obtain ⟨hx, hxs⟩ := List.forall_mem_cons.mp h
    rw [List.intercalate_cons_cons, List.mem_append, List.mem_append, not_or, not_or]
    exact ⟨⟨hx, hsep⟩, not_mem_intercalate hsep hxs⟩

end

/-! ## Numbers -/

/-- The digits of a number tell it. -/
theorem eq_of_toString_eq {m n : Nat} (h : toString m = toString n) : m = n := by
  rw [Nat.toString_eq_ofList_toDigits, Nat.toString_eq_ofList_toDigits, String.ofList_inj] at h
  have hval := congrArg (Nat.ofDigitChars 10 · 0) h
  simpa only [Nat.ofDigitChars_ten_toDigits] using hval

theorem isDigit_of_mem_toString {n : Nat} {c : Char} (h : c ∈ (toString n).toList) :
    c.isDigit = true := by
  rw [Nat.toString_eq_ofList_toDigits, String.toList_ofList] at h
  exact Nat.isDigit_of_mem_toDigits (by decide) (by decide) h

theorem toList_toString_ne_nil (n : Nat) : (toString n).toList ≠ [] := by
  rw [Nat.toString_eq_ofList_toDigits, String.toList_ofList]
  exact Nat.toDigits_ne_nil

namespace Text

theorem toList_bracketedNumbers (ns : List Nat) : (bracketedNumbers ns).toList =
    '[' :: ([',', ' '].intercalate (ns.map fun n => (toString n).toList) ++ [']']) := by
  rw [bracketedNumbers, bracketed, String.toList_append, String.toList_append,
    String.toList_intercalate, List.map_map]
  rfl

/-- **A bracketed list of numbers tells them.** -/
theorem bracketedNumbers_inj {ms ns : List Nat} (h : bracketedNumbers ms = bracketedNumbers ns) :
    ms = ns := by
  have hparts : ∀ (ns : List Nat), ∀ part ∈ ns.map fun n => (toString n).toList,
      part ≠ [] ∧ ',' ∉ part := by
    refine fun ns => List.forall_mem_map.mpr fun n _ => ⟨toList_toString_ne_nil n, fun hcomma => ?_⟩
    exact absurd (isDigit_of_mem_toString hcomma) (by decide)
  have hinner := congrArg String.toList h
  rw [toList_bracketedNumbers, toList_bracketedNumbers, List.cons_inj_right,
    List.append_cancel_right_eq] at hinner
  have hdigits := intercalate_inj (hparts ms) (hparts ns) hinner
  have hinj : Function.Injective fun n : Nat => (toString n).toList :=
    fun _ _ he => eq_of_toString_eq (String.toList_inj.mp he)
  exact List.map_injective_iff.mpr hinj hdigits

theorem hyphen_not_mem_bracketedNumbers (ns : List Nat) : '-' ∉ (bracketedNumbers ns).toList := by
  have hparts : ∀ part ∈ ns.map fun n => (toString n).toList, '-' ∉ part :=
    List.forall_mem_map.mpr fun n _ hhyphen => absurd (isDigit_of_mem_toString hhyphen) (by decide)
  have hsep : '-' ∉ [',', ' '] := by decide
  have hinner := not_mem_intercalate hsep hparts
  simpa [toList_bracketedNumbers] using hinner

end Text

end BalancerImport
