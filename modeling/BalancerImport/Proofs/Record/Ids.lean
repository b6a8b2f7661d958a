import BalancerImport.Proofs.Lists
import BalancerImport.Proofs.Record.Ports
import BalancerImport.Proofs.Text.Raised

/-!
# Lists of ids

A list of ids may be written in many ways: between brackets or not, with white space and quotes
around each id, with blank entries in between. It is read as the same ids in all of them.

* `Cell.Content`, `Cell.Written`, `Cell.Listed`, `Cell.Lists`: the notations, said without the
  reader;
* `Cell.bareId_written`, `Cell.idsIn_joined`: entries, and entries between commas;
* `Cell.idsIn_padded`: white space around a list makes no difference;
  `Cell.unbracket?_trimChars`: a list without brackets is not taken for one in brackets;
* **`Cell.splitIds_of_lists`**: whatever the notation.
-/

namespace BalancerImport

open Text

namespace Cell

variable {cs part content before after : List Char} {parts : List (List Char)} {s : String}
  {ids : List String}

/-! ## Notations -/

/-- White space only. -/
def Spaces (cs : List Char) : Prop := ∀ c ∈ cs, isBlank c = true

instance (cs : List Char) : Decidable (Spaces cs) := List.decidableBAll (isBlank · = true) cs

/-- What an entry of a list may hold: there is no comma in it, and neither white space nor quotes
nor brackets at its ends. -/
structure Content (cs : List Char) : Prop where
  comma : ',' ∉ cs
  blanks : EndsFree isBlank cs
  quotes : EndsFree (· == '"') cs
  brackets : EndsFree (fun c => c == '[' || c == ']') cs

/-- How an entry may be written: with white space around its content, and quoted or not. -/
inductive Written (content : List Char) : List Char → Prop
  | bare {before after : List Char} : Spaces before → Spaces after →
      Written content (before ++ content ++ after)
  | quoted {before inner inner' after : List Char} : Spaces before → Spaces inner →
      Spaces inner' → Spaces after →
      Written content (before ++ ('"' :: (inner ++ content ++ inner' ++ ['"'])) ++ after)

/-- Entries that hold some ids, in their order. Others are blank. -/
inductive Listed : List (List Char) → List String → Prop
  | nil : Listed [] []
  | blank {part : List Char} {parts : List (List Char)} {ids : List String} :
      Written [] part → Listed parts ids → Listed (part :: parts) ids
  | id {part : List Char} {id : String} {parts : List (List Char)} {ids : List String} :
      id ≠ "" → Content id.toList → Written id.toList part → Listed parts ids →
      Listed (part :: parts) (id :: ids)

/-- Entries with commas between them. -/
def joined (parts : List (List Char)) : List Char := [','].intercalate parts

/-- A text that lists ids: entries with commas between them, in brackets or not, and with white
space around all. -/
inductive Lists (s : String) (ids : List String) : Prop
  | bare {before after : List Char} {parts : List (List Char)} : Spaces before → Spaces after →
      Listed parts ids → s.toList = before ++ joined parts ++ after → Lists s ids
  | bracketed {before after : List Char} {parts : List (List Char)} : Spaces before →
      Spaces after → Listed parts ids →
      s.toList = before ++ ('[' :: (joined parts ++ [']'])) ++ after → Lists s ids

/-! ## Entries -/

theorem Spaces.comma (h : Spaces cs) : ',' ∉ cs := fun hmem => absurd (h _ hmem) (by decide)

theorem content_nil : Content [] := ⟨by decide, by decide, by decide, by decide⟩

theorem trimChars_padded (hbefore : Spaces before) (hafter : Spaces after) :
    trimChars (before ++ cs ++ after) = trimChars cs := stripWhile_padded hbefore hafter

theorem bareId_padded (hbefore : Spaces before) (hafter : Spaces after) :
    bareId (before ++ part ++ after) = bareId part := by
  rw [bareId, bareId, trimChars_padded hbefore hafter]

theorem Spaces.quotes (h : Spaces cs) : EndsFree (· == '"') cs :=
  endsFree_of_forall fun c hc => beq_false_of_ne fun he => absurd (h c hc) (he ▸ by decide)

/-- Quotes are taken off, as far as they go. -/
theorem stripWhile_quoted (h : EndsFree (· == '"') cs) :
    stripWhile (· == '"') ('"' :: (cs ++ ['"'])) = cs := by
  have hquote : ∀ c ∈ ['"'], (c == '"') = true :=
    List.forall_mem_singleton.mpr (beq_self_eq_true '"')
  exact (stripWhile_padded hquote hquote).trans (stripWhile_eq_self h)

/-- **An entry is read as its content.** -/
theorem bareId_written (hcontent : Content content) (h : Written content part) :
    bareId part = content := by
  have htrim : trimChars content = content := stripWhile_eq_self hcontent.blanks
  cases h with
  | bare hbefore hafter =>
    rw [bareId_padded hbefore hafter, bareId, htrim, stripWhile_eq_self hcontent.quotes, htrim]
  | @quoted before inner inner' after hbefore hinner hinner' hafter =>
    have hquoted : trimChars ('"' :: (inner ++ content ++ inner' ++ ['"'])) =
        '"' :: (inner ++ content ++ inner' ++ ['"']) :=
      stripWhile_eq_self (endsFree_enclosed (by decide) (by decide))
    have hfree : EndsFree (· == '"') (inner ++ content ++ inner') :=
      (hinner.quotes.append hcontent.quotes).append hinner'.quotes
    rw [bareId_padded hbefore hafter, bareId, hquoted, stripWhile_quoted hfree,
      trimChars_padded hinner hinner', htrim]

theorem Written.comma (hcontent : Content content) (h : Written content part) : ',' ∉ part := by
  cases h with
  | bare hbefore hafter => simp [hbefore.comma, hcontent.comma, hafter.comma]
  | quoted hbefore hinner hinner' hafter =>
    simp [hbefore.comma, hinner.comma, hcontent.comma, hinner'.comma, hafter.comma]

theorem Listed.written (h : Listed parts ids) :
    ∀ part ∈ parts, ∃ content, Content content ∧ Written content part := by
  induction h with
  | nil => exact nofun
  | blank hw _ ih => exact List.forall_mem_cons.mpr ⟨⟨_, content_nil, hw⟩, ih⟩
  | id _ hcontent hw _ ih => exact List.forall_mem_cons.mpr ⟨⟨_, hcontent, hw⟩, ih⟩

/-! ## Entries between commas -/

/-- The ids in what is left of a text once the brackets around it are taken off. -/
def idsIn (cs : List Char) : List String :=
  (((cs.splitOn ',').map bareId).filter fun part => !part.isEmpty).map String.ofList

theorem splitIds_eq (s : String) : splitIds s =
    idsIn ((unbracket? (trimChars s.toList)).getD (trimChars s.toList)) := rfl

theorem Listed.contents (h : Listed parts ids) :
    ((parts.map bareId).filter fun part => !part.isEmpty).map String.ofList = ids := by
  induction h with
  | nil => rfl
  | blank hw _ ih =>
    rw [List.map_cons, bareId_written content_nil hw]
    exact ih
  | @id part id parts ids hne hcontent hw _ ih =>
    have hkept : (!id.toList.isEmpty) = true := by simpa using hne
    rw [List.map_cons, bareId_written hcontent hw, List.filter_cons, if_pos hkept, List.map_cons,
      ih, String.ofList_toList]

/-- **Entries between commas are read as the ids that they hold.** -/
theorem idsIn_joined (h : Listed parts ids) : idsIn (joined parts) = ids := by
  by_cases hparts : parts = []
  · subst hparts
    cases h
    rfl
  · have hcomma : ∀ part ∈ parts, ',' ∉ part := fun part hpart =>
      have ⟨_, hcontent, hw⟩ := h.written part hpart
      hw.comma hcontent
    rw [idsIn, joined, List.splitOn_intercalate ',' hcomma hparts, h.contents]

/-! ## White space around a list -/

theorem map_bareId_prepend (h : Spaces before) (cs : List Char) :
    ((before ++ cs).splitOn ',').map bareId = (cs.splitOn ',').map bareId := by
  induction before with
  | nil => rfl
  | cons c before ih =>
    obtain ⟨hc, hrest⟩ := List.forall_mem_cons.mp h
    have hne : (c == ',') = false := beq_false_of_ne fun he => absurd hc (he ▸ by decide)
    have hone : ∀ part, bareId (c :: part) = bareId part := fun part => by
      have hpadded : bareId ([c] ++ part ++ []) = bareId part :=
        bareId_padded (List.forall_mem_singleton.mpr hc) (List.forall_mem_nil _)
      rwa [List.append_nil] at hpadded
    rw [List.cons_append, List.splitOn_cons_eq_if_modifyHead, hne, ← ih hrest]
    cases (before ++ cs).splitOn ',' with
    | nil => rfl
    | cons part parts => simp [hone]

/-- White space after a list belongs to its last entry. -/
theorem splitOn_append_spaces (h : Spaces after) : ∀ cs : List Char,
    List.Forall₂ (fun part part' => part' = part ∨ part' = part ++ after)
      (cs.splitOn ',') ((cs ++ after).splitOn ',')
  | [] => by
    rw [List.nil_append, List.splitOn_eq_singleton h.comma]
    exact .cons (.inr rfl) .nil
  | c :: cs => by
    -- the entry that `c` is put before may be the last one, so both cases of it have to be kept
    have ih := splitOn_append_spaces h cs
    rw [List.cons_append, List.splitOn_cons_eq_if_modifyHead, List.splitOn_cons_eq_if_modifyHead]
    split
    · exact .cons (.inl rfl) ih
    · revert ih
      generalize cs.splitOn ',' = parts, (cs ++ after).splitOn ',' = parts'
      rintro (_ | ⟨hpart, hrest⟩)
      · exact .nil
      · exact .cons (hpart.imp (congrArg _) (congrArg _)) hrest

/-- **White space around a list makes no difference.** -/
theorem idsIn_padded (hbefore : Spaces before) (hafter : Spaces after) (cs : List Char) :
    idsIn (before ++ cs ++ after) = idsIn cs := by
  have hlast : ((cs ++ after).splitOn ',').map bareId = (cs.splitOn ',').map bareId := by
    refine map_eq_of_forall₂ (splitOn_append_spaces hafter cs) ?_
    rintro part _ (rfl | rfl)
    · rfl
    · have hpadded : bareId ([] ++ part ++ after) = bareId part :=
        bareId_padded (List.forall_mem_nil _) hafter
      rwa [List.nil_append] at hpadded
  rw [idsIn, idsIn, List.append_assoc, map_bareId_prepend hbefore, hlast]

theorem idsIn_trimChars (cs : List Char) : idsIn (trimChars cs) = idsIn cs := by
  obtain ⟨before, after, hbefore, hafter, hcs⟩ := exists_padded isBlank cs
  calc idsIn (trimChars cs)
      = idsIn (before ++ trimChars cs ++ after) := (idsIn_padded hbefore hafter _).symm
    _ = idsIn cs := congrArg idsIn hcs.symm

/-! ## Brackets around a list -/

/-- The first character that is not white space is no opening bracket. -/
def Unopened (cs : List Char) : Prop := cs.find? (fun c => !isBlank c) ≠ some '['

theorem Unopened.append (h : Unopened cs) (h' : Unopened after) : Unopened (cs ++ after) := by
  rw [Unopened, List.find?_append]
  cases hcs : cs.find? (fun c => !isBlank c) with
  | none => exact h'
  | some c => exact fun he => h (hcs.trans he)

theorem Spaces.find?_eq_none (h : Spaces cs) : cs.find? (fun c => !isBlank c) = none :=
  List.find?_eq_none.mpr fun c hc => by simp [h c hc]

theorem unopened_spaces (h : Spaces cs) : Unopened cs := by
  rw [Unopened, h.find?_eq_none]
  exact nofun

theorem unopened_cons {c : Char} (hblank : isBlank c = false) (hc : c ≠ '[') :
    Unopened (c :: cs) := by
  simpa [Unopened, hblank] using hc

theorem Content.unopened (h : Content content) : Unopened content := by
  cases content with
  | nil => exact unopened_spaces nofun
  | cons c cs =>
    have hbracket := h.brackets.1 c rfl
    refine unopened_cons (h.blanks.1 c rfl) ?_
    rintro rfl
    exact absurd hbracket (by decide)

theorem Written.unopened (hcontent : Content content) (h : Written content part) :
    Unopened part := by
  cases h with
  | bare hbefore hafter =>
    exact ((unopened_spaces hbefore).append hcontent.unopened).append (unopened_spaces hafter)
  | quoted hbefore _ _ hafter =>
    exact ((unopened_spaces hbefore).append (unopened_cons (by decide) (by decide))).append
      (unopened_spaces hafter)

theorem Listed.unopened (h : Listed parts ids) : Unopened (joined parts) := by
  have hpart : ∀ part ∈ parts, Unopened part := fun part hmem =>
    have ⟨_, hcontent, hw⟩ := h.written part hmem
    hw.unopened hcontent
  match parts, hpart with
  | [], _ => exact unopened_spaces nofun
  | [part], hpart =>
    rw [joined, List.intercalate_singleton]
    exact hpart part List.mem_cons_self
  | part :: next :: parts, hpart =>
    rw [joined, List.intercalate_cons_cons, List.append_assoc]
    exact (hpart part List.mem_cons_self).append (unopened_cons (by decide) (by decide))

/-- A text that no bracket opens is not enclosed in brackets. -/
theorem unbracket?_trimChars (h : Unopened cs) : unbracket? (trimChars cs) = none := by
  rw [unbracket?_eq_none]
  rintro ⟨inner, hinner⟩
  obtain ⟨before, after, hbefore, -, hcs⟩ := exists_padded isBlank cs
  rw [← trimChars, hinner] at hcs
  have hfirst : cs.find? (fun c => !isBlank c) = some '[' := by
    rw [hcs, List.append_assoc, List.find?_append, Spaces.find?_eq_none hbefore]
    rfl
  exact h hfirst

/-! ## Whole texts -/

/-- **A text that lists ids is read as these ids**, whatever its notation. -/
theorem splitIds_of_lists (h : Lists s ids) : splitIds s = ids := by
  rw [splitIds_eq]
  cases h with
  | @bare before after parts hbefore hafter hlisted hs =>
    -- trimming may take white space off the first and the last entry, which `idsIn` does not notice
    have hunopened : Unopened s.toList := by
      rw [hs]
      exact ((unopened_spaces hbefore).append hlisted.unopened).append (unopened_spaces hafter)
    rw [unbracket?_trimChars hunopened, Option.getD_none, idsIn_trimChars, hs,
      idsIn_padded hbefore hafter, idsIn_joined hlisted]
  | @bracketed before after parts hbefore hafter hlisted hs =>
    have htrim : trimChars s.toList = '[' :: (joined parts ++ [']']) := by
      rw [hs, trimChars_padded hbefore hafter]
      exact stripWhile_eq_self (endsFree_enclosed (by decide) (by decide))
    rw [htrim, unbracket?_eq_some.mpr rfl, Option.getD_some, idsIn_joined hlisted]

/-- A cell with two certificates, and with most of what may stand around them. -/
def certificateCell : String := "\t[ \" cert-a \", ,cert b,\"\" ] "

/-- The cell is a list between brackets. Its first id is quoted, and two entries are blank. -/
theorem splitIds_of_lists_quoted : Lists certificateCell ["cert-a", "cert b"] ∧
    splitIds certificateCell = ["cert-a", "cert b"] := by
  have hquoted : Written "cert-a".toList _ :=
    @Written.quoted _ [' '] [' '] [' '] [] (by decide) (by decide) (by decide) (by decide)
  have hblank : Written [] _ := @Written.bare [] [' '] [] (by decide) (by decide)
  have hbare : Written "cert b".toList _ := @Written.bare _ [] [] (by decide) (by decide)
  have hempty : Written [] _ :=
    @Written.quoted [] [] [] [] [' '] (by decide) (by decide) (by decide) (by decide)
  have hlisted : Listed _ ["cert-a", "cert b"] :=
    .id (by decide) ⟨by decide, by decide, by decide, by decide⟩ hquoted <| .blank hblank <|
      .id (by decide) ⟨by decide, by decide, by decide, by decide⟩ hbare <| .blank hempty .nil
  have hlists : Lists certificateCell ["cert-a", "cert b"] :=
    @Lists.bracketed _ _ ['\t'] [' '] _ (by decide) (by decide) hlisted (by decide)
  exact ⟨hlists, splitIds_of_lists hlists⟩

-- An id with brackets at its ends would be taken for a list between brackets.
example : splitIds "[a],[b]" = ["a]", "[b"] := by decide

end Cell

end BalancerImport
