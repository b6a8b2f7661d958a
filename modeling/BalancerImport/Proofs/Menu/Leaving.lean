import BalancerImport.Menu.Session

/-!
# Leaving the menu

Every question of the menu leads back to the choices or to the end, so whoever keeps choosing to
leave gets out. Before the menu that choice answers the questions about the operator: a business, an
account, the regions; after a choice it answers the questions of that choice.

* `Prompt.answersToLeave`: how far a question is from the end; **`Session.proper_answer`**: what one
  answer does, and that choosing to leave brings the end closer;
* `Transcript.Over`: how sessions end; `Menu.Leaves`: sessions that end if leaving is chosen again
  and again; `Session.leaves_cons`, `Session.leaves_nil`: by what was answered before, and after;
* **`Menu.leaves_run`**: the menu lets the user out.
-/

namespace BalancerImport

/-! ## One answer -/

/-- How often a question is at most answered with the choice to leave before the session ends. -/
def Prompt.answersToLeave : Prompt → Nat
  | .vendor => 1
  | .business _ => 4
  | .account _ _ => 3
  | .regions _ _ _ => 2
  | .menu _ .choice => 1
  | .menu _ .operation => 3
  | .menu _ _ => 2

theorem Prompt.answersToLeave_pos : ∀ prompt : Prompt, 0 < prompt.answersToLeave
  | .vendor | .business _ | .account _ _ | .regions _ _ _ | .menu _ .choice
  | .menu _ .operation | .menu _ (.rowsFile _) | .menu _ .source | .menu _ .job => Nat.succ_pos _

theorem Prompt.answersToLeave_le : ∀ prompt : Prompt, prompt.answersToLeave ≤ 4
  | .vendor | .business _ | .account _ _ | .regions _ _ _ | .menu _ .choice
  | .menu _ .operation | .menu _ (.rowsFile _) | .menu _ .source | .menu _ .job => by
    simp [answersToLeave]

/-- What a reply does: it ends the session because it was left, or with a fatal error, or it asks
another question, of which `P` holds. -/
inductive Reply.Proper {L K : Type} (P : Prompt → Prop) : Reply L K → Prop
  | left : Proper P { shown := [.line "Saliendo..."], next := .ended 0 }
  | failed (fault : FatalFault) : Proper P (Session.fail fault)
  | asks {shown : List Shown} {s : Session L K} : P s.prompt → Proper P { shown, next := .ask s }

theorem Reply.Proper.of_ask {L K : Type} {P : Prompt → Prop} {reply : Reply L K} {s : Session L K}
    (h : reply.Proper P) (hnext : reply.next = .ask s) : P s.prompt := by
  cases h with
  | left => exact nomatch hnext
  | failed _ => exact nomatch hnext
  | asks hP =>
    obtain rfl := Next.ask.inj hnext
    exact hP

namespace Session

variable {L K : Type} {files : Files} {line : String} {s : Session L K} {ctx : Context}
  {operation : Operation} {P : Prompt → Prop}

theorem proper_toMenu {shown : List Shown} (h : P (.menu ctx .choice)) :
    (s.toMenu ctx shown).Proper P := .asks h

theorem proper_answerVendor (h : line ≠ "7" → ∀ vendor, P (.business vendor)) :
    (s.answerVendor line).Proper P := by
  unfold answerVendor
  dsimp only
  split
  · rename_i hempty
    exact .asks (h (fun hline => absurd (hline ▸ hempty) (by decide)) _)
  · split
    · rename_i vendor hvendor
      have hline : line ≠ "7" := by
        rintro rfl
        have hunknown : (Vendor.parse "7").toOption = none := by decide
        rw [hvendor] at hunknown
        exact nomatch hunknown
      exact .asks (h hline vendor)
    · exact .failed _

theorem proper_answerBusiness {vendor : Vendor} (h : ∀ business, P (.account vendor business)) :
    (s.answerBusiness vendor line).Proper P := by
  unfold answerBusiness
  dsimp only
  split
  · exact .asks (h _)
  · split
    · exact .asks (h _)
    · exact .failed _

theorem proper_chooseOperation (hmenu : P (.menu ctx .choice)) (h : P (.menu ctx .operation)) :
    (s.chooseOperation ctx).Proper P := by
  unfold chooseOperation
  dsimp only
  split
  · exact proper_toMenu hmenu
  · exact .asks h

theorem proper_answerOperation (hmenu : P (.menu ctx .choice))
    (h : ∀ operation, P (.menu ctx (.rowsFile operation))) :
    (s.answerOperation ctx line).Proper P := by
  unfold answerOperation
  split
  · exact .asks (h _)
  · exact proper_toMenu hmenu

theorem proper_answerRowsFile (hmenu : P (.menu ctx .choice)) :
    (s.answerRowsFile files ctx operation line).Proper P := by
  unfold answerRowsFile
  split
  · exact proper_toMenu hmenu
  · split <;> exact proper_toMenu hmenu

theorem proper_revalidate (hmenu : P (.menu ctx .choice)) : (s.revalidate ctx).Proper P := by
  unfold revalidate
  split
  · exact proper_toMenu hmenu
  · split <;> exact proper_toMenu hmenu

theorem proper_chooseSource (hmenu : P (.menu ctx .choice)) (h : P (.menu ctx .source)) :
    (s.chooseSource ctx).Proper P := by
  unfold chooseSource
  split
  · exact proper_toMenu hmenu
  · exact .asks h

section

variable [LedgerStore L] [LockStore K]

theorem proper_answerSource (hmenu : P (.menu ctx .choice)) :
    (s.answerSource ctx line).Proper P := by
  unfold answerSource
  split
  · exact proper_toMenu hmenu
  · split
    · exact proper_toMenu hmenu
    · split <;> exact proper_toMenu hmenu

omit [LedgerStore L] in
theorem proper_runFlows (hmenu : P (.menu ctx .choice)) : (s.runFlows ctx).Proper P := by
  unfold runFlows
  split <;> exact proper_toMenu hmenu

omit [LockStore K] in
theorem proper_answerJob (hmenu : P (.menu ctx .choice)) : (s.answerJob ctx line).Proper P := by
  unfold answerJob
  split
  · exact proper_toMenu hmenu
  · split <;> exact proper_toMenu hmenu

omit [LedgerStore L] in
theorem proper_showLocks (hmenu : P (.menu ctx .choice)) : (s.showLocks ctx).Proper P := by
  unfold showLocks
  split <;> exact proper_toMenu hmenu

omit [LedgerStore L] in
/-- Every choice but the one to leave asks another question. -/
theorem proper_answerChoice (h : line ≠ "7" → ∀ question, P (.menu ctx question)) :
    (s.answerChoice ctx line).Proper P := by
  unfold answerChoice
  split
  case h_7 => exact .left
  case h_8 hleave =>
    exact proper_toMenu (h hleave _)
  all_goals have hany := h (by decide)
  · exact proper_chooseOperation (hany _) (hany _)
  · exact proper_revalidate (hany _)
  · exact proper_chooseSource (hany _) (hany _)
  · exact proper_runFlows (hany _)
  · exact .asks (hany _)
  · exact proper_showLocks (hany _)

/-- **One answer**: whatever is asked and answered, the session ends properly or goes on. The choice
to leave brings it closer to its end. -/
theorem proper_answer (s : Session L K) (files : Files) (line : String) :
    (s.answer files line).Proper fun prompt =>
      Text.trim line = "7" → prompt.answersToLeave < s.prompt.answersToLeave := by
  unfold answer answerTrimmed
  split <;> rename_i hprompt <;> rw [hprompt]
  · exact proper_answerVendor fun hline _ h => absurd h hline
  · exact proper_answerBusiness fun _ _ => Nat.lt_succ_self 3
  · exact .asks fun _ => Nat.lt_succ_self 2
  · exact proper_toMenu fun _ => Nat.lt_succ_self 1
  · exact proper_answerChoice fun hline _ h => absurd h hline
  · exact proper_answerOperation (fun _ => Nat.succ_lt_succ (Nat.zero_lt_succ 1)) fun _ _ =>
      Nat.lt_succ_self 2
  · exact proper_answerRowsFile fun _ => Nat.lt_succ_self 1
  · exact proper_answerSource fun _ => Nat.lt_succ_self 1
  · exact proper_answerJob fun _ => Nat.lt_succ_self 1

end

end Session

/-! ## Sessions -/

/-- How a session ended: it was left, or a fatal error was shown. -/
inductive Transcript.Over (t : Transcript) : Prop
  | left : t.status = some 0 → [.line "Saliendo..."] <:+ t.shown → Over t
  | failed (fault : FatalFault) : t.status = some 1 →
      [.complaint s!"Error: {fault.shown}"] <:+ t.shown → Over t

theorem Transcript.Over.append {t : Transcript} (h : t.Over) (shown : List Shown) (n : Nat) :
    Transcript.Over { t with shown := shown ++ t.shown, answersRead := n } := by
  cases h with
  | left hstatus hshown => exact .left hstatus (hshown.trans (List.suffix_append _ _))
  | failed fault hstatus hshown =>
    exact .failed fault hstatus (hshown.trans (List.suffix_append _ _))

/-- Some answers, and then the choice to leave given again and again, end what is answered, which
reads at most `extra` of the latter. -/
def Menu.Leaves (feed : List String → Transcript) (lines : List String) (extra : Nat) : Prop :=
  ∃ t : Transcript, t.Over ∧ t.answersRead ≤ lines.length + extra ∧
    ∀ n, extra ≤ n → feed (lines ++ List.replicate n "7") = t

theorem Menu.Leaves.of_append {feed : List String → Transcript} {lines : List String} {extra : Nat}
    (h : Menu.Leaves feed (lines ++ ["7"]) extra) : Menu.Leaves feed lines (extra + 1) := by
  obtain ⟨t, hover, hread, hfeed⟩ := h
  refine ⟨t, hover, ?_, fun n hn => ?_⟩
  · rw [List.length_append, List.length_singleton] at hread
    omega
  · obtain ⟨n, rfl⟩ : ∃ m, n = m + 1 := ⟨n - 1, by omega⟩
    rw [← hfeed n (Nat.le_of_succ_le_succ hn), List.append_assoc]
    rfl

namespace Session

variable {L K : Type} [LedgerStore L] [LockStore K] {files : Files}

/-- The first answer ends the session, or the rest does. -/
theorem leaves_cons {s : Session L K} {line : String} {lines : List String} {extra : Nat}
    (h : ∀ s', (s.answer files line).next = .ask s' → Menu.Leaves (feed files · s') lines extra) :
    Menu.Leaves (feed files · s) (line :: lines) extra := by
  have hreply := proper_answer s files line
  rw [Menu.Leaves, List.length_cons]
  simp only [List.cons_append, feed]
  generalize s.answer files line = reply at h hreply
  cases hreply with
  | left => exact ⟨_, .left rfl List.suffix_rfl, by simp only; omega, fun _ _ => rfl⟩
  | failed fault =>
    exact ⟨_, .failed fault rfl List.suffix_rfl, by simp only; omega, fun _ _ => rfl⟩
  | @asks shown s' _ =>
    obtain ⟨t, hover, hread, hfeed⟩ := h s' rfl
    refine ⟨t.after shown, hover.append shown _, ?_, fun n hn => by simp only [hfeed n hn]⟩
    simp only [Transcript.after]
    omega

/-- **A session that is answered with the choice to leave ends**, and reads at most as many answers
as its open question allows. -/
theorem leaves_nil {extra : Nat} : ∀ {s : Session L K}, s.prompt.answersToLeave ≤ extra →
    Menu.Leaves (feed files · s) [] extra := by
  induction extra with
  | zero => exact fun {s} h => absurd s.prompt.answersToLeave_pos (Nat.not_lt.mpr h)
  | succ extra ih =>
    intro s h
    refine Menu.Leaves.of_append (leaves_cons fun s' hs' => ih ?_)
    have hcloser := (proper_answer s files "7").of_ask hs' (by decide)
    omega

/-- So does one that is given other answers before. -/
theorem leaves (lines : List String) : ∀ s : Session L K, Menu.Leaves (feed files · s) lines 4 := by
  induction lines with
  | nil => exact fun s => leaves_nil s.prompt.answersToLeave_le
  | cons line lines ih => exact fun s => leaves_cons fun s' _ => ih s'

end Session

namespace Menu

theorem leaves_runAt {L K : Type} [LedgerStore L] [LockStore K] (files : Files)
    (lines : List String) (d : Desk L K) : Leaves (runAt files · d) lines 4 := by
  obtain ⟨t, hover, hread, hfeed⟩ : Leaves (Session.feed files · (Session.start d)) lines 4 :=
    Session.leaves lines _
  refine ⟨_, hover.append Session.greeting t.answersRead, hread, fun n hn => ?_⟩
  simp only [runAt, hfeed n hn]

/-- **The menu always lets the user out**, whatever the tables hold. -/
theorem leaves_run (files : Files) (vars : Variables) (seed : Nat) (now : Instant)
    (tables : LedgerTables) (locks : LockTable) (lines : List String) :
    Leaves (run files vars seed now tables locks) lines 4 := by
  unfold run
  split
  · rename_i fault _
    exact ⟨_, .failed fault rfl List.suffix_rfl, Nat.zero_le _, fun _ _ => rfl⟩
  · split
    · exact leaves_runAt files lines _
    · exact leaves_runAt files lines _

-- Where a business is asked for, the choice to leave answers three more questions before the menu.
example : let shown := run (fun _ => none) (fun _ => none) 0 0 (.empty 0) .empty
    (shown ["tcloud", "7", "7", "7"]).status = none ∧
      (shown ["tcloud", "7", "7", "7", "7"]).status = some 0 := by
  decide +kernel

end Menu

end BalancerImport
