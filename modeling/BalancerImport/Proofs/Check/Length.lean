import BalancerImport.Check.Vendor
import BalancerImport.Proofs.Lists

/-!
# The length of a batch

Validation keeps the records of a batch one by one.

* `length_markDuplicates`, `length_checkBalancers`, `length_checkSurvivors`: its stages;
* **`length_validateRecords`**: a validated batch is as long as it was.
-/

namespace BalancerImport

variable {R : Type} [Importable R]

/-! ## Duplicates -/

theorem length_markPair (earlier later : Nat) (rs : List R) :
    (markPair earlier later rs).length = rs.length := by
  rw [markPair, List.length_modify, List.length_modify]

theorem length_markFrom : ∀ (index : Nat) (keys : List String) (seen : List (String × Nat))
    (rs : List R), (markFrom index keys seen rs).length = rs.length
  | _, [], _, _ => rfl
  | index, key :: keys, seen, rs => by
    have hpairs : ∀ (earlier : List Nat) (rs : List R),
        (earlier.foldl (fun rs earlier => markPair earlier index rs) rs).length = rs.length := by
      intro earlier
      induction earlier with
      | nil => exact fun _ => rfl
      | cons e earlier ih => exact fun rs => (ih _).trans (length_markPair e index rs)
    rw [markFrom, length_markFrom, hpairs]

theorem length_markDuplicates (rs : List R) : (markDuplicates rs).length = rs.length :=
  length_markFrom _ _ _ _

/-! ## Balancers -/

theorem length_screenAll {ctx : Context} {found : List LoadBalancer} : ∀ {rs : List R}
    {screened : List (Screened R)}, screenAll ctx found rs = .ok screened →
    screened.length = rs.length
  | [], _, h => by
    obtain rfl := Except.ok.inj h
    rfl
  | r :: rs, screened, h => by
    unfold screenAll at h
    split at h
    · simp at h
    · rename_i s _
      obtain ⟨rest, hrest, rfl⟩ := map_ok h
      rw [List.length_cons, List.length_cons, length_screenAll hrest]

theorem length_checkBalancers {ctx : Context} {cloud : Cloud} {rs : List R}
    {screened : List (Screened R)} (h : checkBalancers ctx cloud rs = .ok screened) :
    screened.length = rs.length := by
  unfold checkBalancers at h
  split at h
  · obtain rfl := Except.ok.inj h
    rw [List.length_map]
  · split at h
    · simp at h
    · exact length_screenAll h

/-! ## The rules of the vendor -/

/-- A check that goes on after another one. -/
theorem Asking.run_bind {α β : Type} (x : Asking α) (f : α → Asking β) (c : Caches) :
    (x >>= f).run c = match x.run c with
      | (.ok a, c) => (f a).run c
      | (.error e, c) => (.error e, c) := by
  change StateT.bind x.run (ExceptT.bindCont f) c = _
  unfold StateT.bind
  rcases h : x.run c with ⟨_ | _, c'⟩ <;> rfl

omit [Importable R] in
theorem length_checkSurvivors {check : R → Asking R} : ∀ {screened : List (Screened R)}
    {c c' : Caches} {rs : List R}, (checkSurvivors check screened).run c = (.ok rs, c') →
    rs.length = screened.length
  | [], _, _, _, h => by
    obtain rfl := Except.ok.inj (congrArg Prod.fst h)
    rfl
  | s :: screened, c, c', rs, h => by
    -- whatever became of the first record, the others follow it
    have hrest : ∀ {r : R} {c : Caches},
        (checkSurvivors check screened >>= fun rest => pure (r :: rest) : Asking _).run c =
          (.ok rs, c') → rs.length = (s :: screened).length := by
      intro r c h
      rw [Asking.run_bind] at h
      split at h
      · rename_i rest c₂ hrest
        obtain rfl := Except.ok.inj (congrArg Prod.fst h)
        rw [List.length_cons, List.length_cons, length_checkSurvivors hrest]
      · exact nomatch congrArg Prod.fst h
    rw [checkSurvivors] at h
    split at h
    · rw [Asking.run_bind] at h
      split at h
      · exact hrest h
      · exact nomatch congrArg Prod.fst h
    · exact hrest h

/-! ## The whole validation -/

/-- **A validated batch has as many records as before.** -/
theorem length_validateRecords {rules : VendorRules R} {ctx : Context} {cloud : Cloud}
    {rs validated : List R} (h : (validateRecords rules ctx cloud rs).1 = .ok validated) :
    validated.length = rs.length := by
  simp only [validateRecords] at h
  split at h
  · simp at h
  · rename_i screened hscreened
    simp only [VendorRules.checkAll] at h
    cases hchecked : (checkSurvivors (rules.check (Lookups.cached cloud)) screened).run
        Caches.empty with
    | mk answer caches =>
      rw [hchecked] at h
      cases answer with
      | error e => simp [Except.map] at h
      | ok checked =>
        obtain rfl := Except.ok.inj h
        rw [List.length_map, length_checkSurvivors hchecked, length_checkBalancers hscreened,
          length_markDuplicates, List.length_map]

end BalancerImport
