import Mathlib.Data.List.Forall2
import Mathlib.Data.List.Nodup

/-!
# Lists and answers

Facts about lists that are mapped or related member by member, and about answers that may be errors.

* `map_ok`, `map_error`, `mapError_ok`: what an answer was that something was made of;
* `map_eq_self`: mapping what leaves each member as it is;
* `Extended`: a list with members added; `Extended.map`, `Extended.filter`;
* `eraseDups_concat`: the distinct members with one more;
* `mem_of_lookup`, `lookup_of_mem`: a table looked up;
* `map_eq_of_forall₂`, `exists_mem_of_forall₂`, `forall₂_getElem?`, `any_of_forall₂`,
  `find?_of_forall₂`, `forall₂_trans`, `countP_zip_of_forall₂`, `exists_forall₂_iff`,
  `forall₂_map_snd`: lists that are related member by member;
* `AtFirst`: the first member of a list that is not good.
-/

namespace BalancerImport

variable {α β γ ε : Type}

theorem map_ok {f : α → β} {x : Except ε α} {b : β} (h : x.map f = .ok b) :
    ∃ a, x = .ok a ∧ f a = b := by
  cases x with
  | error e => exact nomatch h
  | ok a => exact ⟨a, rfl, Except.ok.inj h⟩

theorem map_error {f : α → β} {x : Except ε α} {e : ε} (h : x.map f = .error e) : x = .error e := by
  cases x with
  | error e' => exact congrArg Except.error (Except.error.inj h)
  | ok a => exact nomatch h

theorem mapError_ok {δ : Type} {f : ε → δ} {x : Except ε α} {a : α} (h : x.mapError f = .ok a) :
    x = .ok a := by
  cases x with
  | error e => exact nomatch h
  | ok b => exact congrArg Except.ok (Except.ok.inj h)

theorem map_eq_self {f : α → α} {l : List α} (h : ∀ a ∈ l, f a = a) : l.map f = l :=
  (List.map_congr_left h).trans (List.map_id' l)

/-- A list is another one with members added at the end. These have some keys, which no other member
has. -/
def Extended (key : α → β) (keys : List β) (old l : List α) : Prop :=
  ∃ new, l = old ++ new ∧ (∀ a ∈ old, key a ∉ keys) ∧ ∀ a ∈ new, key a ∈ keys

/-- Changing members that were added, but not their keys, adds other members. -/
theorem Extended.map {key : α → β} {keys : List β} {old l : List α} (h : Extended key keys old l)
    {f : α → α} (hkey : ∀ a, key (f a) = key a) (hkept : ∀ a, key a ∉ keys → f a = a) :
    Extended key keys old (l.map f) := by
  obtain ⟨new, rfl, hold, hnew⟩ := h
  refine ⟨new.map f, ?_, hold, fun b hb => ?_⟩
  · rw [List.map_append, map_eq_self fun a ha => hkept a (hold a ha)]
  · obtain ⟨a, ha, rfl⟩ := List.mem_map.mp hb
    exact (hkey a).symm ▸ hnew a ha

/-- Without the members that were added, the list is what it was. -/
theorem Extended.filter {key : α → β} {keys : List β} {old l : List α} (h : Extended key keys old l)
    {p : α → Bool} (hp : ∀ a, p a = true ↔ key a ∉ keys) : l.filter p = old := by
  obtain ⟨new, rfl, hold, hnew⟩ := h
  have hkeep : old.filter p = old := List.filter_eq_self.mpr fun a ha => (hp a).mpr (hold a ha)
  have hdrop : new.filter p = [] :=
    List.filter_eq_nil_iff.mpr fun a ha hpa => (hp a).mp hpa (hnew a ha)
  rw [List.filter_append, hkeep, hdrop, List.append_nil]

theorem eraseDups_concat [BEq α] [LawfulBEq α] (l : List α) (a : α) :
    (l ++ [a]).eraseDups = if a ∈ l then l.eraseDups else l.eraseDups ++ [a] := by
  rw [List.eraseDups_append]
  by_cases h : a ∈ l
  · simp [h, List.removeAll]
  · simp [h, List.removeAll, List.eraseDups_cons]

/-- A table without a key twice, looked up at a key. -/
theorem mem_of_lookup [BEq α] [LawfulBEq α] {l : List (α × β)} {key : α} {b : β}
    (h : l.lookup key = some b) : (key, b) ∈ l := by
  obtain ⟨before, after, rfl, -⟩ := List.lookup_eq_some_iff.mp h
  exact List.mem_append_right before List.mem_cons_self

theorem lookup_of_mem [BEq α] [LawfulBEq α] {l : List (α × β)} {key : α} {b : β}
    (hnodup : (l.map Prod.fst).Nodup) (hm : (key, b) ∈ l) : l.lookup key = some b := by
  obtain ⟨before, after, rfl⟩ := List.append_of_mem hm
  refine List.lookup_eq_some_iff.mpr ⟨before, after, rfl, fun p hp => ?_⟩
  rw [List.map_append, List.map_cons, List.nodup_middle, ← List.map_append] at hnodup
  have hkey : key ∉ (before ++ after).map Prod.fst := (List.nodup_cons.mp hnodup).1
  have hne : p.1 ≠ key := fun he =>
    hkey (List.mem_map.mpr ⟨p, List.mem_append_left _ hp, he⟩)
  simpa using hne.symm

theorem length_le_one_of_nodup : ∀ {l : List α}, l.Nodup → (∀ a ∈ l, ∀ b ∈ l, a = b) →
    l.length ≤ 1
  | [], _, _ => Nat.zero_le 1
  | [_], _, _ => Nat.le_refl 1
  | a :: b :: l, hnodup, h => by
    have he : a = b := h a List.mem_cons_self b (List.mem_cons_of_mem _ List.mem_cons_self)
    exact absurd (he ▸ List.mem_cons_self) (List.nodup_cons.mp hnodup).1

/-- What the results have in common with what they are made from. -/
theorem map_eq_of_forall₂ {P : α → β → Prop} {f : α → γ} {g : β → γ} {as : List α} {bs : List β}
    (h : List.Forall₂ P as bs) (hfg : ∀ a b, P a b → g b = f a) : bs.map g = as.map f := by
  induction h with
  | nil => rfl
  | cons hab _ ih => rw [List.map_cons, List.map_cons, hfg _ _ hab, ih]

theorem exists_mem_of_forall₂ {P : α → β → Prop} {as : List α} {bs : List β} {b : β}
    (h : List.Forall₂ P as bs) (hb : b ∈ bs) : ∃ a ∈ as, P a b := by
  induction h with
  | nil => simp at hb
  | @cons a _ _ _ hab _ ih =>
    rcases List.mem_cons.mp hb with rfl | hb
    · exact ⟨a, List.mem_cons_self, hab⟩
    · obtain ⟨a', ha, hP⟩ := ih hb
      exact ⟨a', List.mem_cons_of_mem _ ha, hP⟩

theorem forall₂_getElem? {P : α → β → Prop} {as : List α} {bs : List β} (h : List.Forall₂ P as bs) :
    ∀ {i : Nat} {a : α} {b : β}, as[i]? = some a → bs[i]? = some b → P a b := by
  induction h with
  | nil => simp
  | cons hab _ ih =>
    rintro (_ | i) a b ha hb
    · obtain rfl := Option.some.inj ha
      obtain rfl := Option.some.inj hb
      exact hab
    · exact ih ha hb

theorem any_of_forall₂ {P : α → β → Prop} {p : α → Bool} {q : β → Bool} {as : List α} {bs : List β}
    (h : List.Forall₂ P as bs) (hpq : ∀ a b, P a b → p a = q b) : as.any p = bs.any q := by
  induction h with
  | nil => rfl
  | cons hab _ ih => rw [List.any_cons, List.any_cons, hpq _ _ hab, ih]

/-- Searches for what is related find what is related, or nothing. -/
theorem find?_of_forall₂ {P : α → β → Prop} {p : α → Bool} {q : β → Bool} {as : List α}
    {bs : List β} (h : List.Forall₂ P as bs) (hpq : ∀ a b, P a b → p a = q b) :
    (as.find? p = none ∧ bs.find? q = none) ∨
      ∃ a b, as.find? p = some a ∧ bs.find? q = some b ∧ P a b := by
  induction h with
  | nil => exact .inl ⟨rfl, rfl⟩
  | @cons a b as bs hab _ ih =>
    cases hp : p a with
    | true =>
      have hq : q b = true := hpq a b hab ▸ hp
      exact .inr ⟨a, b, List.find?_cons_of_pos hp, List.find?_cons_of_pos hq, hab⟩
    | false =>
      have hq : q b = false := hpq a b hab ▸ hp
      rw [List.find?_cons_of_neg (by simp [hp]), List.find?_cons_of_neg (by simp [hq])]
      exact ih

theorem forall₂_trans {P : α → β → Prop} {Q : β → γ → Prop} {S : α → γ → Prop} {as : List α}
    {bs : List β} {cs : List γ} (h : List.Forall₂ P as bs) (h' : List.Forall₂ Q bs cs)
    (hPQ : ∀ a b c, P a b → Q b c → S a c) : List.Forall₂ S as cs := by
  induction h generalizing cs with
  | nil =>
    cases h'
    exact .nil
  | cons hab _ ih =>
    cases h' with
    | cons hbc hrest => exact .cons (hPQ _ _ _ hab hbc) (ih hrest)

/-- Lists that are related member by member, where a member of the second is counted if the related
one is, or if the two together are. -/
theorem countP_zip_of_forall₂ {P : α → β → Prop} {p : α → Bool} {q : β → Bool}
    {r : α × β → Bool} {as : List α} {bs : List β} (h : List.Forall₂ P as bs)
    (hcount : ∀ a b, P a b → (q b).toNat = (p a).toNat + (r (a, b)).toNat) :
    bs.countP q = as.countP p + (as.zip bs).countP r := by
  induction h with
  | nil => rfl
  | @cons a b as bs hab _ ih =>
    have hhead := hcount a b hab
    simp only [List.zip_cons_cons, List.countP_cons, ih]
    cases hq : q b <;> cases hp : p a <;> cases hr : r (a, b) <;> simp [hq, hp, hr] at hhead ⊢ <;>
      omega

/-- Members each of which is related to something. -/
theorem exists_forall₂_iff {P : α → β → Prop} {as : List α} :
    (∃ bs, List.Forall₂ P as bs) ↔ ∀ a ∈ as, ∃ b, P a b := by
  induction as with
  | nil => exact iff_of_true ⟨[], .nil⟩ nofun
  | cons a as ih =>
    rw [List.forall_mem_cons, ← ih]
    constructor
    · rintro ⟨_, h⟩
      cases h with
      | cons hab hrest => exact ⟨⟨_, hab⟩, _, hrest⟩
    · rintro ⟨⟨b, hab⟩, bs, hrest⟩
      exact ⟨b :: bs, .cons hab hrest⟩

theorem forall₂_map_snd {P : β → γ → Prop} {g : α × β → γ} {xs : List (α × β)}
    (h : ∀ x ∈ xs, P x.2 (g x)) : List.Forall₂ P (xs.map Prod.snd) (xs.map g) := by
  rw [List.forall₂_map_left_iff, List.forall₂_map_right_iff, List.forall₂_same]
  exact h

/-! ## First members -/

section

variable {a : α} {l : List α} {good : α → Prop} {bad : Nat → α → Prop}

/-- A list has a first member that is not good, and that one is bad at its index. -/
def AtFirst (good : α → Prop) (bad : Nat → α → Prop) (l : List α) : Prop :=
  ∃ before a after, l = before ++ a :: after ∧ (∀ b ∈ before, good b) ∧ bad before.length a

theorem not_atFirst_nil : ¬ AtFirst good bad [] := by
  rintro ⟨before, a, after, hl, -⟩
  exact List.append_ne_nil_of_right_ne_nil before (List.cons_ne_nil a after) hl.symm

theorem atFirst_cons_of_good (hgood : good a) (hbad : ¬ bad 0 a) :
    AtFirst good bad (a :: l) ↔ AtFirst good (fun n => bad (n + 1)) l := by
  constructor
  · rintro ⟨_ | ⟨b, before⟩, c, after, hl, hbefore, hc⟩
    · obtain ⟨rfl, -⟩ := List.cons.inj hl
      exact absurd hc hbad
    · obtain ⟨rfl, hrest⟩ := List.cons.inj hl
      exact ⟨before, c, after, hrest, fun b hb => hbefore b (List.mem_cons_of_mem _ hb), hc⟩
  · rintro ⟨before, c, after, rfl, hbefore, hc⟩
    exact ⟨a :: before, c, after, rfl, List.forall_mem_cons.mpr ⟨hgood, hbefore⟩, hc⟩

theorem atFirst_cons_of_not_good (hgood : ¬ good a) : AtFirst good bad (a :: l) ↔ bad 0 a := by
  constructor
  · rintro ⟨_ | ⟨b, before⟩, c, after, hl, hbefore, hc⟩
    · obtain ⟨rfl, -⟩ := List.cons.inj hl
      exact hc
    · obtain ⟨rfl, -⟩ := List.cons.inj hl
      exact absurd (hbefore a List.mem_cons_self) hgood
  · intro ha
    exact ⟨[], a, l, rfl, nofun, ha⟩

end

end BalancerImport
