import BalancerImport.Json.Decode
import BalancerImport.Json.Parser
import BalancerImport.Json.Printer
import BalancerImport.Proofs.Lists

/-!
# Texts in documents

A text in a document is read back as that text, whatever characters it has.

* `allSome_map`, `strs?_strs`: lists that are decoded as they were encoded;
* `readEscape_short`, `readEscape_control`: short escapes, and those of control characters;
* `readString_escape`, `readString_escapes`: what is written for a character, and for the characters
  of a text;
* **`readValue_quote`**: a text.
-/

namespace BalancerImport.Json

/-! ## Decoded lists -/

section

variable {α β : Type}

theorem allSome_map {decode : Json → Option β} {f : α → Json} {g : α → β} : ∀ {as : List α},
    (∀ a ∈ as, decode (f a) = some (g a)) → allSome decode (as.map f) = some (as.map g)
  | [], _ => rfl
  | a :: as, h => by
    obtain ⟨ha, hrest⟩ := List.forall_mem_cons.mp h
    simp only [List.map_cons, allSome, ha, allSome_map hrest, Option.map_some]

theorem strs?_strs (ss : List String) : strs? (strs ss) = some ss := by
  rw [strs?, strs, listOf?, allSome_map (f := Json.str) (g := id) fun s _ => rfl, List.map_id]

end

/-! ## One text -/

/-- The units of control characters. -/
theorem readUnit_unitDigits : ∀ n < 0x20, readUnit (unitDigits n) = some (n, []) := by decide

theorem readUnit_append {cs : List Char} {n : Nat} (h : readUnit cs = some (n, []))
    (r : List Char) : readUnit (cs ++ r) = some (n, r) := by
  unfold readUnit at h
  split at h
  · rename_i a b c d rest
    simp only [Option.bind_eq_bind, Option.bind_eq_some_iff, Option.pure_def, Option.some.injEq,
      Prod.mk.injEq] at h
    obtain ⟨a', ha, b', hb, c', hc, d', hd, rfl, rfl⟩ := h
    simp [readUnit, ha, hb, hc, hd]
  · exact nomatch h

theorem readEscape_control {c : Char} (h : c.toNat < 0x20) (r : List Char) :
    readEscape ('u' :: (unitDigits c.toNat ++ r)) = some (c, r) := by
  have hunit := readUnit_append (readUnit_unitDigits c.toNat h) r
  have hlow : (0xDC00 ≤ c.toNat && c.toNat ≤ 0xDFFF) = false := by simp; omega
  have hhigh : (0xD800 ≤ c.toNat && c.toNat ≤ 0xDBFF) = false := by simp; omega
  unfold readEscape
  simp only [hunit, hlow, hhigh, Bool.false_eq_true, if_false, Char.ofNat_toNat]

theorem readEscape_short {c short : Char} (h : shortEscapes.lookup c = some short)
    (r : List Char) : readEscape (short :: r) = some (c, r) := by
  have hread : ∀ p ∈ shortEscapes, readEscape (p.2 :: r) = some (p.1, r) := by
    simp [shortEscapes, readEscape]
  exact hread _ (mem_of_lookup h)

/-- **A character of a text is read back from what is written for it.** -/
theorem readString_escape (fuel : Nat) (seen : List Char) (c : Char) (r : List Char) :
    readString (fuel + 1) seen (escape c ++ r) = readString fuel (c :: seen) r := by
  unfold escape
  cases hshort : shortEscapes.lookup c with
  | some short =>
    have hback := readEscape_short hshort r
    simp only [List.cons_append, List.nil_append, readString, hback]
    rfl
  | none =>
    by_cases hcontrol : c.toNat < 0x20
    · have hback := readEscape_control hcontrol r
      simp only [if_pos hcontrol, List.cons_append, List.nil_append, readString, hback]
      rfl
    · -- a character that stands for itself
      have hplain : ∀ p ∈ shortEscapes, (c == p.1) = false := by
        simpa using List.lookup_eq_none_iff.mp hshort
      have hquote : (c == '"') = false := hplain ('"', '"') (by decide)
      have hslash : (c == '\\') = false := hplain ('\\', '\\') (by decide)
      simp only [if_neg hcontrol, List.cons_append, List.nil_append, readString, hquote, hslash,
        if_false, Bool.false_eq_true]

theorem readString_escapes : ∀ (cs : List Char) (fuel : Nat) (seen r : List Char),
    cs.length < fuel → readString fuel seen (cs.flatMap escape ++ '"' :: r) =
      some (String.ofList (seen.reverse ++ cs), r)
  | [], fuel + 1, seen, r, _ => by
    simp [readString]
  | c :: cs, fuel + 1, seen, r, h => by
    have hlength : cs.length < fuel := by
      rw [List.length_cons] at h
      omega
    rw [List.flatMap_cons, List.append_assoc, readString_escape,
      readString_escapes cs fuel (c :: seen) r hlength, List.reverse_cons, List.append_assoc]
    rfl

theorem length_le_flatMap_escape : ∀ cs : List Char, cs.length ≤ (cs.flatMap escape).length
  | [] => Nat.le_refl 0
  | c :: cs => by
    have ih := length_le_flatMap_escape cs
    have hc : 1 ≤ (escape c).length := by
      unfold escape
      repeat' split
      all_goals simp
    rw [List.flatMap_cons, List.length_append, List.length_cons]
    omega

theorem toList_quote (s : String) : (quote s).toList = '"' :: (s.toList.flatMap escape ++ ['"']) := by
  simp [quote]

theorem readString_quoted (s : String) (r : List Char) :
    readString ((s.toList.flatMap escape ++ '"' :: r).length + 1) []
      (s.toList.flatMap escape ++ '"' :: r) = some (s, r) := by
  have hlength : s.toList.length < (s.toList.flatMap escape ++ '"' :: r).length + 1 := by
    have hle := length_le_flatMap_escape s.toList
    rw [List.length_append]
    omega
  rw [readString_escapes s.toList _ [] r hlength, List.reverse_nil, List.nil_append,
    String.ofList_toList]

/-- **A text is read back from what is written for it.** -/
theorem readValue_quote (fuel depth : Nat) (s : String) (r : List Char) :
    readValue (fuel + 1) depth ((quote s).toList ++ r) = some (.str s, r) := by
  have hgap : skipGap ('"' :: (s.toList.flatMap escape ++ '"' :: r)) =
      '"' :: (s.toList.flatMap escape ++ '"' :: r) := rfl
  rw [toList_quote, List.cons_append, List.append_assoc]
  simp only [List.cons_append, List.nil_append, readValue, hgap, readString_quoted, Option.map_some]

-- Of the control characters only some have short escapes.
example : quote "\x08\x0c\x1f" = "\"\\b\\f\\u001f\"" := by decide

end BalancerImport.Json
