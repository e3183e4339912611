import TopDown.Proofs.Pattern.SparedClass

/-!
# Patterns in a group

A pattern is read in a group that is put around it. The group ends where the pattern does, unless a
closing parenthesis of the pattern closes a group that the pattern does not open: then the text
strays.

* `PatternState.within` : a reading inside one more group;
* `spares_patternStep` : a step inside that group is taken as it would be outside of it;
* `PatternState.Strays` : on the way through the text a parenthesis closes no open group;
* `readPattern_within` : a text that is read to the end of the group, and does not stray, is read
  alike without the group;
* `Expr.parse?_anchored` : the expression of a text in a group behind an anchor.
-/

namespace TopDown.Pattern

open Text

variable {f : Flags}

/-! ## Counts -/

theorem takeDigits_nil (n : Nat) : takeDigits f n [] = ([], []) := by
  cases n <;> rfl

theorem spares_takeDigits {n m : Nat} {s : List Char} (hn : s.length + 1 < n) (hm : s.length < m) :
    Spares s.length (some (takeDigits f n (s ++ [')']))) (some (takeDigits f m s)) := by
  induction n generalizing s m with
  | zero => omega
  | succ n ih =>
    obtain ⟨m, rfl⟩ : ∃ k, m = k + 1 := ⟨m - 1, by omega⟩
    cases s with
    | nil => exact Spares.stays (r := []) (Nat.zero_le _)
    | cons c s =>
      simp only [List.cons_append, takeDigits]
      by_cases hc : c.isDigit = true
      · simp only [hc, if_true]
        have hskip := f.skipsTo s
        generalize f.skip (s ++ [')']) = t, f.skip s = u at hskip ⊢
        rw [List.length_cons] at hn hm
        cases hskip with
        | @cons d u hu =>
          have hle : (d :: u).length ≤ s.length := hu
          have hspares := ih (s := d :: u) (m := m) (by omega) (by omega)
          exact (hspares.map (c :: ·)).mono (Nat.le_succ_of_le hle)
        | parenthesis =>
          exact ((ih (s := []) (m := m) (by rw [List.length_nil]; omega)
            (by rw [List.length_nil]; omega)).map (c :: ·)).mono (Nat.zero_le _)
        | hidden =>
          rw [takeDigits_nil]
          exact .ends
      · simp only [hc]
        exact Spares.stays (r := c :: s) (Nat.le_refl _)

/-- The number that some digits stand for, if a count may be that large. -/
def count? (digits : List Char) : Option Nat :=
  let n := digits.foldl (fun n c => 10 * n + (c.toNat - '0'.toNat)) 0
  if digits.isEmpty || countLimit < n then none else some n

theorem readCount_eq (s : List Char) :
    readCount f s =
      let a := takeDigits f ((s.dropWhile isBlank).length + 1) (s.dropWhile isBlank)
      (count? a.1).map fun n => (n, f.skip (a.2.dropWhile isBlank)) := by
  unfold readCount count?
  simp only
  split
  · rfl
  · rfl

theorem spares_readCount (s : List Char) :
    Spares s.length (readCount f (s ++ [')'])) (readCount f s) := by
  intro n rest h hrest
  rw [readCount_eq, dropWhile_isBlank_concat] at h
  rw [readCount_eq]
  have hblank := (List.dropWhile_sublist (l := s) isBlank).length_le
  generalize s.dropWhile isBlank = u at hblank h ⊢
  have hspares := spares_takeDigits (f := f) (n := (u ++ [')']).length + 1) (m := u.length + 1)
    (s := u) (by simp) (by simp)
  generalize takeDigits f ((u ++ [')']).length + 1) (u ++ [')']) = a at h hspares
  obtain ⟨digits, t⟩ := a
  obtain ⟨n, hn, hr⟩ := Option.map_eq_some_iff.1 h
  cases hr
  have ht : t ≠ [] := by
    rintro rfl
    exact hrest f.skip_nil
  obtain ⟨r, rfl, hle, hbare⟩ := hspares digits t rfl ht
  simp only [dropWhile_isBlank_concat] at hrest ⊢
  obtain ⟨hskip, hle'⟩ := (f.skipsTo (r.dropWhile isBlank)).eq_concat hrest
  refine ⟨f.skip (r.dropWhile isBlank), hskip, ?_, ?_⟩
  · have := (List.dropWhile_sublist (l := r) isBlank).length_le
    omega
  · rw [Option.some.inj hbare]
    simp only [hn]
    rfl

theorem readCount_nil : readCount f [] = none := rfl

theorem Flags.SkipsTo.spares_readCount {n : Nat} {t u : List Char} (h : SkipsTo n t u) :
    Spares n (readCount f t) (readCount f u) :=
  h.spares Pattern.spares_readCount fun _ _ h => by
    rw [readCount_nil] at h
    cases h

theorem spares_readCounts (s : List Char) :
    Spares s.length (readCounts f (s ++ [')'])) (readCounts f s) := by
  intro a rest h hrest
  unfold readCounts at h ⊢
  have hspares := (f.skipsTo s).spares_readCount (f := f)
  generalize readCount f (f.skip (s ++ [')'])) = closed, readCount f (f.skip s) = bare
    at hspares h ⊢
  split at h
  · cases h
  · rename_i min rest
    cases h
    obtain ⟨r, hr, hle, rfl⟩ := hspares _ _ rfl (List.cons_ne_nil _ _)
    obtain ⟨r, rfl, rfl⟩ := of_cons_eq_concat (by decide) hr
    exact ⟨r, rfl, Nat.le_of_succ_le hle, rfl⟩
  · rename_i min rest
    obtain ⟨r, hr, hle, rfl⟩ := hspares _ _ rfl (List.cons_ne_nil _ _)
    obtain ⟨r, rfl, rfl⟩ := of_cons_eq_concat (by decide) hr
    simp only
    have hskip := f.skipsTo r
    generalize f.skip (r ++ [')']) = t, f.skip r = u at hskip h ⊢
    rw [List.length_cons] at hle
    split at h
    · cases h
      cases hskip with
      | @cons _ u hu => exact ⟨u, rfl, by omega, rfl⟩
    · rename_i hplain
      split at h
      · rename_i max rest hmax
        split at h
        · rename_i hbounds
          cases h
          obtain ⟨r', hr', hle', hbare⟩ := hskip.spares_readCount _ _ hmax (List.cons_ne_nil _ _)
          obtain ⟨r', rfl, rfl⟩ := of_cons_eq_concat (by decide) hr'
          rw [List.length_cons] at hle'
          refine ⟨r', rfl, by omega, ?_⟩
          split
          · cases hskip with
            | cons => exact absurd rfl (hplain _)
          · simp only [hbare, hbounds, if_true]
        · cases h
      · cases h
  · cases h

/-! ## Groups -/

/-- Inside one more group, which stands around all that is open. -/
def PatternState.within (st : PatternState) (outer : GroupFrame) : PatternState :=
  { st with stack := st.stack ++ [outer] }

theorem readGroupName_concat (s : List Char) :
    readGroupName (s ++ [')']) = (readGroupName s).map fun a => (a.1, a.2 ++ [')']) := by
  unfold readGroupName
  simp only
  rcases dropWhile_ne_concat (d := '>') (by decide) s with
    ⟨hopen, hclosed⟩ | ⟨u, hopen, hclosed, hname⟩
  · rw [hopen, hclosed]
    rfl
  · rw [hopen, hclosed, hname]
    cases s.takeWhile (· != '>') with
    | nil => rfl
    | cons c cs =>
      simp only
      split <;> rfl

theorem length_readGroupName_le {s : List Char} {a : List Char × List Char}
    (h : readGroupName s = some a) : a.2.length ≤ s.length := by
  have hle := (List.dropWhile_sublist (l := s) (· != '>')).length_le
  unfold readGroupName at h
  simp only at h
  split at h
  · rename_i rest c cs hs _
    rw [hs, List.length_cons] at hle
    split at h
    · cases h
      exact Nat.le_of_succ_le hle
    · cases h
  · cases h

theorem takeFlagLetters_concat {s letters rest : List Char}
    (h : takeFlagLetters (s ++ [')']) = some (letters, rest)) :
    rest = [')'] ∨ ∃ r, rest = r ++ [')'] ∧ r.length ≤ s.length ∧
      takeFlagLetters s = some (letters, r) := by
  induction s generalizing letters with
  | nil => cases h; exact .inl rfl
  | cons c s ih =>
    simp only [List.cons_append, takeFlagLetters] at h ⊢
    split at h
    · rename_i hc
      cases h
      exact .inr ⟨c :: s, rfl, Nat.le_refl _, if_pos hc⟩
    · rename_i hc
      obtain ⟨a, ha, hr⟩ := Option.map_eq_some_iff.1 h
      cases hr
      rcases ih ha with hr | ⟨r, hr, hle, hbare⟩
      · exact .inl hr
      · exact .inr ⟨r, hr, Nat.le_succ_of_le hle, by rw [if_neg hc, hbare]; rfl⟩

/-- A group that looks around, behind its question mark. -/
def LooksAround (s : List Char) : Prop :=
  ∃ r, s = '=' :: r ∨ s = '!' :: r ∨ s = '<' :: '=' :: r ∨ s = '<' :: '!' :: r

theorem looksAround_concat (s : List Char) : LooksAround (s ++ [')']) ↔ LooksAround s := by
  constructor
  · rintro ⟨r, h | h | h | h⟩
    · obtain ⟨u, rfl, -⟩ := of_cons_eq_concat (by decide) h.symm
      exact ⟨u, .inl rfl⟩
    · obtain ⟨u, rfl, -⟩ := of_cons_eq_concat (by decide) h.symm
      exact ⟨u, .inr (.inl rfl)⟩
    · obtain ⟨u, rfl, h'⟩ := of_cons_eq_concat (by decide) h.symm
      obtain ⟨v, rfl, -⟩ := of_cons_eq_concat (by decide) h'
      exact ⟨v, .inr (.inr (.inl rfl))⟩
    · obtain ⟨u, rfl, h'⟩ := of_cons_eq_concat (by decide) h.symm
      obtain ⟨v, rfl, -⟩ := of_cons_eq_concat (by decide) h'
      exact ⟨v, .inr (.inr (.inr rfl))⟩
  · rintro ⟨r, rfl | rfl | rfl | rfl⟩
    · exact ⟨r ++ [')'], .inl rfl⟩
    · exact ⟨r ++ [')'], .inr (.inl rfl)⟩
    · exact ⟨r ++ [')'], .inr (.inr (.inl rfl))⟩
    · exact ⟨r ++ [')'], .inr (.inr (.inr rfl))⟩

/-- A named group, behind its opening angle bracket. -/
def openNamed (st : PatternState) (s : List Char) : Option (PatternState × List Char) :=
  match readGroupName s with
  | some (name, rest) =>
    if st.names.contains name then none
    else some ({ st.openGroup st.flags true with names := name :: st.names }, rest)
  | none => none

/-- A group with flags, or a switch of flags, behind its question mark. -/
def openFlags (st : PatternState) (s : List Char) : Option (PatternState × List Char) :=
  match takeFlagLetters s with
  | some (letters, ':' :: rest) =>
    (st.flags.setLetters true letters).map fun flags => (st.openGroup flags false, rest)
  | some (letters, _ :: rest) =>
    if letters.isEmpty then none
    else
      (st.flags.setLetters true letters).map fun flags =>
        ({ st with flags := flags }.push ⟨.empty, 0, true⟩, rest)
  | _ => none

section

variable {st : PatternState} {s v : List Char}

theorem readGroup_look (h : st.flags.skip s = '?' :: v) (hv : LooksAround v) :
    readGroup st s = none := by
  unfold readGroup
  rw [h]
  obtain ⟨r, rfl | rfl | rfl | rfl⟩ := hv <;> rfl

theorem readGroup_named {r : List Char} (h : st.flags.skip s = '?' :: v) (hv : ¬ LooksAround v)
    (hr : v = 'P' :: '<' :: r ∨ v = '<' :: r) : readGroup st s = openNamed st r := by
  unfold readGroup
  rw [h]
  rcases hr with rfl | rfl
  · rfl
  · split
    · rename_i heq
      cases heq
    · rename_i heq
      cases heq
    · rename_i heq
      cases heq
      exact absurd ⟨_, .inr (.inr (.inl rfl))⟩ hv
    · rename_i heq
      cases heq
      exact absurd ⟨_, .inr (.inr (.inr rfl))⟩ hv
    · rename_i heq
      cases heq
    · rename_i heq
      cases heq
      rfl
    · rename_i hangle heq
      cases heq
      exact (hangle _ rfl).elim
    · rename_i hmark
      exact (hmark _ rfl).elim

theorem readGroup_flags (h : st.flags.skip s = '?' :: v) (hv : ¬ LooksAround v)
    (hr : ∀ r, v ≠ 'P' :: '<' :: r ∧ v ≠ '<' :: r) : readGroup st s = openFlags st v := by
  unfold readGroup
  rw [h]
  split
  · rename_i heq
    cases heq
    exact absurd ⟨_, .inl rfl⟩ hv
  · rename_i heq
    cases heq
    exact absurd ⟨_, .inr (.inl rfl)⟩ hv
  · rename_i heq
    cases heq
    exact absurd rfl (hr _).2
  · rename_i heq
    cases heq
    exact absurd rfl (hr _).2
  · rename_i heq
    cases heq
    exact absurd rfl (hr _).1
  · rename_i heq
    cases heq
    exact absurd rfl (hr _).2
  · rename_i heq
    cases heq
    rfl
  · rename_i hmark
    exact (hmark _ rfl).elim

theorem readGroup_plain (h : ∀ v, st.flags.skip s ≠ '?' :: v) :
    readGroup st s = some (st.openGroup st.flags true, st.flags.skip s) := by
  unfold readGroup
  split
  all_goals first
    | exact absurd ‹_› (h _)
    | rfl

end

variable {st st' : PatternState} {outer : GroupFrame} {s rest : List Char}

theorem openNamed_concat
    (h : openNamed (st.within outer) (s ++ [')']) = some (st', rest)) :
    ∃ r, rest = r ++ [')'] ∧ r.length ≤ s.length ∧
      (openNamed st s).map (fun a => (a.1.within outer, a.2)) = some (st', r) := by
  unfold openNamed at h ⊢
  rw [readGroupName_concat] at h
  cases hname : readGroupName s with
  | none =>
    rw [hname] at h
    cases h
  | some a =>
    obtain ⟨name, r⟩ := a
    rw [hname] at h
    simp only [Option.map_some] at h ⊢
    split at h
    · cases h
    · rename_i hnew
      cases h
      exact ⟨r, rfl, length_readGroupName_le hname, congrArg (Option.map _) (if_neg hnew)⟩

theorem openFlags_concat
    (h : openFlags (st.within outer) (s ++ [')']) = some (st', rest)) (hrest : rest ≠ []) :
    ∃ r, rest = r ++ [')'] ∧ r.length ≤ s.length ∧
      (openFlags st s).map (fun a => (a.1.within outer, a.2)) = some (st', r) := by
  unfold openFlags at h ⊢
  split at h
  · rename_i letters rest' hletters
    obtain ⟨flags, hflags, hr⟩ := Option.map_eq_some_iff.1 h
    cases hr
    rcases takeFlagLetters_concat hletters with hr | ⟨r, hr, hle, hbare⟩
    · cases hr
    · obtain ⟨u, rfl, rfl⟩ := of_cons_eq_concat (by decide) hr
      refine ⟨u, rfl, Nat.le_of_succ_le hle, ?_⟩
      rw [hbare]
      exact congrArg (Option.map _) (congrArg (Option.map _) hflags)
  · rename_i letters c rest' hcolon hletters
    split at h
    · cases h
    · rename_i hempty
      obtain ⟨flags, hflags, hr⟩ := Option.map_eq_some_iff.1 h
      cases hr
      rcases takeFlagLetters_concat hletters with hr | ⟨r, hr, hle, hbare⟩
      · cases hr
        exact absurd rfl hrest
      · cases r with
        | nil =>
          cases hr
          exact absurd rfl hrest
        | cons d u =>
          cases hr
          refine ⟨u, rfl, Nat.le_of_succ_le hle, ?_⟩
          rw [hbare]
          simp only
          rw [if_neg hempty]
          exact congrArg (Option.map _) (congrArg (Option.map _) hflags)
  · cases h

/-- A group with a mark behind its parenthesis. The mark says the same in both texts. -/
theorem spares_readGroup_mark {t v : List Char}
    (ht : (st.within outer).flags.skip t = '?' :: (v ++ [')'])) (hs : st.flags.skip s = '?' :: v) :
    Spares v.length (readGroup (st.within outer) t)
      ((readGroup st s).map fun a => (a.1.within outer, a.2)) := by
  intro st' rest h hrest
  by_cases hlook : LooksAround v
  · rw [readGroup_look ht ((looksAround_concat v).2 hlook)] at h
    cases h
  have hlook' := mt (looksAround_concat v).1 hlook
  by_cases hname : ∃ r, v = 'P' :: '<' :: r ∨ v = '<' :: r
  · obtain ⟨r, hr⟩ := hname
    have hr' : v ++ [')'] = 'P' :: '<' :: (r ++ [')']) ∨ v ++ [')'] = '<' :: (r ++ [')']) := by
      rcases hr with rfl | rfl <;> simp
    rw [readGroup_named ht hlook' hr'] at h
    rw [readGroup_named hs hlook hr]
    obtain ⟨r', rfl, hle, hbare⟩ := openNamed_concat h
    refine ⟨r', rfl, ?_, hbare⟩
    rcases hr with rfl | rfl <;> simp only [List.length_cons] <;> omega
  · have hplain (r : List Char) : v ≠ 'P' :: '<' :: r ∧ v ≠ '<' :: r :=
      ⟨fun h => hname ⟨r, .inl h⟩, fun h => hname ⟨r, .inr h⟩⟩
    have hplain' (r : List Char) : v ++ [')'] ≠ 'P' :: '<' :: r ∧ v ++ [')'] ≠ '<' :: r := by
      constructor
      · intro h
        rcases v with _ | ⟨a, _ | ⟨b, w⟩⟩
        · cases h
        · simp at h
        · simp only [List.cons_append, List.cons.injEq] at h
          exact (hplain w).1 (by rw [h.1, h.2.1])
      · exact concat_ne_cons (by decide) (fun u => (hplain u).2) r
    rw [readGroup_flags ht hlook' hplain'] at h
    rw [readGroup_flags hs hlook hplain]
    exact openFlags_concat h hrest

theorem spares_readGroup (s : List Char) :
    Spares s.length (readGroup (st.within outer) (s ++ [')']))
      ((readGroup st s).map fun a => (a.1.within outer, a.2)) := by
  intro st' rest h hrest
  have hskip := st.flags.skipsTo s
  generalize ht : st.flags.skip (s ++ [')']) = t, hu : st.flags.skip s = u at hskip
  have hne : t ≠ [] := by
    rintro rfl
    have hplain (v : List Char) : (st.within outer).flags.skip (s ++ [')']) ≠ '?' :: v :=
      fun h => absurd (ht.symm.trans h) nofun
    rw [readGroup_plain hplain] at h
    cases h
    exact hrest ht
  obtain ⟨rfl, hle⟩ := hskip.eq_concat hne
  by_cases hmark : ∃ v, u = '?' :: v
  · obtain ⟨v, rfl⟩ := hmark
    have ht' : (st.within outer).flags.skip (s ++ [')']) = '?' :: (v ++ [')']) := ht
    exact (spares_readGroup_mark ht' hu).mono (Nat.le_of_succ_le hle) st' rest h hrest
  · have hplain (v : List Char) : st.flags.skip s ≠ '?' :: v :=
      fun h => hmark ⟨v, hu.symm.trans h⟩
    have hplain' (v : List Char) : (st.within outer).flags.skip (s ++ [')']) ≠ '?' :: v := by
      rw [← hu] at ht
      exact fun h => concat_ne_cons (by decide) hplain v (ht.symm.trans h)
    rw [readGroup_plain hplain'] at h
    cases h
    refine ⟨u, ht, hle, ?_⟩
    rw [readGroup_plain hplain, hu]
    rfl

/-! ## Steps -/

theorem repeatLast_within (min : Nat) (max : Option Nat) (lazy : Bool) :
    repeatLast (st.within outer) min max lazy =
      (repeatLast st min max lazy).map (·.within outer) := by
  unfold repeatLast PatternState.within
  cases st.items with
  | nil => rfl
  | cons i is =>
    simp only
    split <;> rfl

theorem spares_readRepetition (min : Nat) (max : Option Nat) (s : List Char) :
    Spares s.length (readRepetition (st.within outer) min max (s ++ [')']))
      ((readRepetition st min max s).map fun a => (a.1.within outer, a.2)) := by
  have hrest (lazy : Bool) (u : List Char) (hu : u.length ≤ s.length) :
      Spares s.length ((repeatLast (st.within outer) min max lazy).map (·, u ++ [')']))
        (((repeatLast st min max lazy).map (·, u)).map fun a => (a.1.within outer, a.2)) := by
    rw [repeatLast_within]
    cases repeatLast st min max lazy with
    | none => exact .fails
    | some st' => exact .stays hu
  cases s with
  | nil => exact hrest false [] (Nat.le_refl _)
  | cons c s =>
    by_cases hc : c = '?'
    · subst hc
      exact hrest true s (Nat.le_succ _)
    · have hplain (st : PatternState) (t : List Char) :
          readRepetition st min max (c :: t) = (repeatLast st min max false).map (·, c :: t) := by
        unfold readRepetition
        split
        · rename_i heq
          cases heq
          exact absurd rfl hc
        · rfl
      rw [List.cons_append, hplain, hplain]
      exact hrest false (c :: s) (Nat.le_refl _)

theorem closeGroup_within (h : st.stack ≠ []) :
    (st.within outer).closeGroup = st.closeGroup.map (·.within outer) := by
  unfold PatternState.closeGroup PatternState.within
  cases hstack : st.stack with
  | nil => exact absurd hstack h
  | cons frame stack => rfl

theorem readRepetition_nil {min : Nat} {max : Option Nat}
    (h : readRepetition st min max [] = some (st', rest)) : rest = [] := by
  obtain ⟨st', -, hr⟩ := Option.map_eq_some_iff.1 h
  cases hr
  rfl

/-- A step inside one more group is taken alike, unless it closes that group, or a boundary is taken
for one without a name as the parenthesis stands where its name would begin. -/
theorem spares_patternStep {c : Char} (hclose : c = ')' → st.stack ≠ [])
    (hboundary : c = '\\' → ∀ u, s = 'b' :: u → ¬ HangsOpen st.flags u) :
    Spares s.length (patternStep (st.within outer) (c :: (s ++ [')'])))
      ((patternStep st (c :: s)).map fun a => (a.1.within outer, a.2)) := by
  have hflags : (st.within outer).flags = st.flags := rfl
  unfold patternStep
  simp only [hflags]
  split
  · exact spares_readGroup s
  · rw [closeGroup_within (hclose rfl)]
    cases st.closeGroup with
    | none => exact .fails
    | some st' => exact .stays (Nat.le_refl _)
  · exact .stays (Nat.le_refl _)
  · rw [Option.map_map]
    exact (spares_readClass s).map fun i => (st.push ⟨.ofSet i.set, i.height, false⟩).within outer
  · exact spares_readRepetition _ _ s
  · exact spares_readRepetition _ _ s
  · exact spares_readRepetition _ _ s
  · -- A count, behind which the repetition is read like the ones above.
    intro st' rest h hrest
    split at h
    · rename_i min max t hcounts
      have ht : t ≠ [] := by
        rintro rfl
        rw [Flags.skip_nil] at h
        exact hrest (readRepetition_nil h)
      obtain ⟨r, rfl, hle, hbare⟩ := spares_readCounts s _ _ hcounts ht
      obtain ⟨r', rfl, hle', hbare'⟩ := (st.flags.skipsTo r).spares
        (spares_readRepetition min max) (fun _ _ => readRepetition_nil) _ _ h hrest
      exact ⟨r', rfl, Nat.le_trans hle' hle, by simp only [hbare]; exact hbare'⟩
    · cases h
  · rw [Option.map_map]
    exact (spares_readEscape (hboundary rfl)).map fun p =>
      (st.push (Item.ofPrimitive st.flags p)).within outer
  · cases dotSet? st.flags with
    | none => exact .fails
    | some set => exact .stays (Nat.le_refl _)
  · exact .stays (Nat.le_refl _)
  · exact .stays (Nat.le_refl _)
  · exact .stays (Nat.le_refl _)

/-! ## Open groups -/

theorem stack_readRepetition {min : Nat} {max : Option Nat}
    (h : readRepetition st min max s = some (st', rest)) : st'.stack = st.stack := by
  have hrepeat {lazy : Bool} {st' : PatternState}
      (h : repeatLast st min max lazy = some st') : st'.stack = st.stack := by
    unfold repeatLast at h
    split at h
    · cases h
    · split at h
      · cases h
      · cases h
        rfl
  unfold readRepetition at h
  split at h
  all_goals
    obtain ⟨st', hst, hr⟩ := Option.map_eq_some_iff.1 h
    cases hr
    exact hrepeat hst

theorem stack_openNamed (h : openNamed st s = some (st', rest)) :
    ∃ frame, st'.stack = frame :: st.stack := by
  unfold openNamed at h
  split at h
  · split at h
    · cases h
    · cases h
      exact ⟨_, rfl⟩
  · cases h

theorem stack_openFlags (h : openFlags st s = some (st', rest)) :
    st'.stack = st.stack ∨ ∃ frame, st'.stack = frame :: st.stack := by
  unfold openFlags at h
  split at h
  · obtain ⟨flags, -, hr⟩ := Option.map_eq_some_iff.1 h
    cases hr
    exact .inr ⟨_, rfl⟩
  · split at h
    · cases h
    · obtain ⟨flags, -, hr⟩ := Option.map_eq_some_iff.1 h
      cases hr
      exact .inl rfl
  · cases h

theorem stack_readGroup (h : readGroup st s = some (st', rest)) :
    st'.stack = st.stack ∨ ∃ frame, st'.stack = frame :: st.stack := by
  unfold readGroup at h
  simp only at h
  split at h
  · cases h
  · cases h
  · cases h
  · cases h
  · exact .inr (stack_openNamed h)
  · exact .inr (stack_openNamed h)
  · exact stack_openFlags h
  · cases h
    exact .inr ⟨_, rfl⟩

/-- A step leaves the open groups as they are, opens one more, or closes the innermost one. -/
theorem stack_patternStep {c : Char} (h : patternStep st (c :: s) = some (st', rest)) :
    st'.stack = st.stack ∨ (∃ frame, st'.stack = frame :: st.stack) ∨
      c = ')' ∧ ∃ frame, st.stack = frame :: st'.stack := by
  unfold patternStep at h
  simp only at h
  split at h
  · rcases stack_readGroup h with h | h
    · exact .inl h
    · exact .inr (.inl h)
  · obtain ⟨st', hclose, hr⟩ := Option.map_eq_some_iff.1 h
    cases hr
    unfold PatternState.closeGroup at hclose
    split at hclose
    · cases hclose
    · cases hclose
      exact .inr (.inr ⟨rfl, _, ‹_›⟩)
  · cases h; exact .inl rfl
  · obtain ⟨i, -, hr⟩ := Option.map_eq_some_iff.1 h
    cases hr
    exact .inl rfl
  · exact .inl (stack_readRepetition h)
  · exact .inl (stack_readRepetition h)
  · exact .inl (stack_readRepetition h)
  · split at h
    · exact .inl (stack_readRepetition h)
    · cases h
  · obtain ⟨i, -, hr⟩ := Option.map_eq_some_iff.1 h
    cases hr
    exact .inl rfl
  · obtain ⟨i, -, hr⟩ := Option.map_eq_some_iff.1 h
    cases hr
    exact .inl rfl
  · cases h; exact .inl rfl
  · cases h; exact .inl rfl
  · cases h; exact .inl rfl

/-! ## Runs -/

/-- Read from here on, a closing parenthesis comes to stand where no group is open. -/
inductive PatternState.Strays : PatternState → List Char → Prop where
  | here {st : PatternState} {s rest : List Char} (hs : st.flags.skip s = ')' :: rest)
    (hstack : st.stack = []) : Strays st s
  | step {st st' : PatternState} {s t rest : List Char} {c : Char} (hs : st.flags.skip s = c :: t)
    (hstep : patternStep st (c :: t) = some (st', rest)) (h : Strays st' rest) : Strays st s

/-- A text with a stray parenthesis is no pattern. -/
theorem PatternState.Strays.readPattern_eq_none (h : st.Strays s) (n : Nat) :
    readPattern n st s = none := by
  induction h generalizing n with
  | here hs hstack =>
    cases n with
    | zero => rw [readPattern, hs]
    | succ n =>
      rw [readPattern, hs]
      simp only [patternStep, PatternState.closeGroup, hstack, Option.map_none]
  | step hs hstep h ih =>
    cases n with
    | zero => rw [readPattern, hs]
    | succ n =>
      rw [readPattern, hs]
      simp only [hstep]
      exact ih n

/-- With nothing left no pattern ends inside a group. -/
theorem readPattern_unclosed {n : Nat} (hs : st.flags.skip s = []) (h : st.stack ≠ []) :
    readPattern n st s = none := by
  have hstack : st.stack.isEmpty = false := by
    rw [List.isEmpty_eq_false_iff]
    exact h
  rw [readPattern, hs]
  simp only [hstack]
  rfl

/-- A brace without a name for a boundary in it is no count either. -/
theorem readPattern_of_hangsOpen (h : HangsOpen st.flags s) (n : Nat) :
    readPattern n st (s ++ [')']) = none := by
  obtain ⟨u, rfl, hu⟩ := h
  have hbrace : st.flags.skip ('\x7b' :: (u ++ [')'])) = '\x7b' :: (u ++ [')']) := by
    unfold Flags.skip
    split <;> rfl
  have hcounts : readCounts st.flags (u ++ [')']) = none := by
    have hskip := st.flags.skipsTo u
    rw [hu] at hskip
    unfold readCounts
    generalize st.flags.skip (u ++ [')']) = t at hskip
    cases hskip <;> rfl
  rw [List.cons_append, readPattern, hbrace]
  cases n with
  | zero => rfl
  | succ n => simp only [patternStep, hcounts]

/-- The item of a group that stands around all that is open. -/
def GroupFrame.close (frame : GroupFrame) (inner : Item) : Item :=
  let expr := if frame.keeps then .group inner.expr else inner.expr
  .ofBranches (.ofBranch (⟨expr, inner.height + 1, false⟩ :: frame.items) :: frame.branches)

theorem readPattern_done {n : Nat} (hs : st.flags.skip s = []) (hstack : st.stack = []) :
    readPattern n st s = some st.group := by
  have hstack : st.stack.isEmpty = true := by
    rw [hstack]
    rfl
  rw [readPattern, hs]
  simp only [hstack, if_true]

theorem readPattern_step {n : Nat} {c : Char} {u : List Char} (hs : st.flags.skip s = c :: u)
    (hstep : patternStep st (c :: u) = some (st', rest)) :
    readPattern (n + 1) st s = readPattern n st' rest := by
  rw [readPattern, hs]
  simp only [hstep]

/-- Every reading with something left takes a step. -/
theorem readPattern_cons {n : Nat} {item : Item} {c : Char} {u : List Char}
    (hs : st.flags.skip s = c :: u) (h : readPattern n st s = some item) :
    ∃ k st' rest, n = k + 1 ∧ patternStep st (c :: u) = some (st', rest) ∧
      readPattern k st' rest = some item := by
  rw [readPattern, hs] at h
  cases n with
  | zero => cases h
  | succ n =>
    simp only at h
    split at h
    · exact ⟨n, _, _, rfl, ‹_›, h⟩
    · cases h

theorem stack_within_ne_nil : (st.within outer).stack ≠ [] := by
  unfold PatternState.within
  simp

/-- A brace in front of the parenthesis is left to be read as a count. -/
theorem readBoundary_of_hangsOpen {l : Look} (hs : HangsOpen f s)
    (h : readBoundary f (s ++ [')']) = some (l, rest)) : rest = s ++ [')'] := by
  obtain ⟨u, rfl, hu⟩ := hs
  have hskip := f.skipsTo u
  rw [hu] at hskip
  unfold readBoundary at h
  simp only [List.cons_append] at h
  generalize f.skip (u ++ [')']) = t at hskip h
  cases hskip with
  | parenthesis =>
    cases h
    rfl
  | hidden => cases h

/-- A boundary that hangs open at the parenthesis is no step on the way to a pattern. -/
theorem readPattern_boundary {n : Nat} {u : List Char} (hu : HangsOpen st.flags u)
    (hstep : patternStep st ('\\' :: 'b' :: (u ++ [')'])) = some (st', rest)) :
    readPattern n st' rest = none := by
  have hb : isEscapable 'b' = false := by decide
  simp only [patternStep, readEscape, hb] at hstep
  obtain ⟨⟨p, r⟩, hp, hst⟩ := Option.map_eq_some_iff.1 hstep
  cases hst
  obtain ⟨⟨l, r⟩, hl, hp⟩ := Option.map_eq_some_iff.1 hp
  cases hp
  cases readBoundary_of_hangsOpen hu hl
  apply readPattern_of_hangsOpen
  exact hu

/-- A step inside a group does not close it. -/
theorem stack_patternStep_within {c : Char} {u : List Char} (hclose : c = ')' → st.stack ≠ [])
    (hstep : patternStep (st.within outer) (c :: u) = some (st', rest)) : st'.stack ≠ [] := by
  rcases stack_patternStep hstep with hstack | ⟨frame, hstack⟩ | ⟨hc, frame, hstack⟩
  · rw [hstack]
    exact stack_within_ne_nil
  · rw [hstack]
    exact List.cons_ne_nil _ _
  · intro hnil
    rw [hnil, PatternState.within] at hstack
    obtain ⟨inner, stack, hinner⟩ := List.exists_cons_of_ne_nil (hclose hc)
    simp [hinner] at hstack

/-- With only the parenthesis left, it closes the outer group if no other one is open. Nothing
follows it, so the reading ends there, as it does without the group. -/
theorem readPattern_parenthesis {n m : Nat} {item : Item} {t : List Char}
    (ht : (st.within outer).flags.skip t = [')']) (hs : st.flags.skip s = [])
    (h : readPattern n (st.within outer) t = some item) :
    ∃ i, readPattern m st s = some i ∧ item = outer.close i := by
  obtain ⟨k, st', rest, rfl, hstep, h⟩ := readPattern_cons ht h
  obtain ⟨st', hclose, hr⟩ := Option.map_eq_some_iff.1 hstep
  cases hr
  by_cases hstack : st.stack = []
  · refine ⟨st.group, readPattern_done hs hstack, ?_⟩
    unfold PatternState.closeGroup PatternState.within at hclose
    rw [hstack] at hclose
    cases hclose
    rw [readPattern_done (Flags.skip_nil _) rfl] at h
    cases h
    rfl
  · rw [closeGroup_within hstack] at hclose
    obtain ⟨st'', -, rfl⟩ := Option.map_eq_some_iff.1 hclose
    rw [readPattern_unclosed (Flags.skip_nil _) stack_within_ne_nil] at h
    cases h

/-- A pattern that is read inside a group is read alike on its own, unless it strays. -/
theorem readPattern_within {n m : Nat} {item : Item}
    (h : readPattern n (st.within outer) (s ++ [')']) = some item) (hs : ¬ st.Strays s)
    (hm : s.length ≤ m) : ∃ i, readPattern m st s = some i ∧ item = outer.close i := by
  induction n using Nat.strongRecOn generalizing st s m with
  | ind n ih =>
    have hskip := st.flags.skipsTo s
    generalize ht : st.flags.skip (s ++ [')']) = t, hu : st.flags.skip s = u at hskip
    have ht : (st.within outer).flags.skip (s ++ [')']) = t := ht
    cases hskip with
    | hidden =>
      rw [readPattern_unclosed ht stack_within_ne_nil] at h
      cases h
    | parenthesis => exact readPattern_parenthesis ht hu h
    | @cons c u hlength =>
      obtain ⟨k, st', rest, rfl, hstep, h⟩ := readPattern_cons ht h
      have hclose (hc : c = ')') : st.stack ≠ [] := fun hstack => hs (.here (hc ▸ hu) hstack)
      have hboundary (hc : c = '\\') (w : List Char) (hw : u = 'b' :: w) :
          ¬ HangsOpen st.flags w := by
        subst hc hw
        intro hhangs
        have hhangs : HangsOpen (st.within outer).flags w := hhangs
        rw [readPattern_boundary hhangs hstep] at h
        cases h
      -- A step that takes the parenthesis with it leaves the outer group open for ever.
      have hrest : rest ≠ [] := by
        rintro rfl
        rw [readPattern_unclosed (Flags.skip_nil _) (stack_patternStep_within hclose hstep)] at h
        cases h
      obtain ⟨r, rfl, hle, hbare⟩ := spares_patternStep hclose hboundary _ _ hstep hrest
      obtain ⟨⟨st'', r⟩, hstep', heq⟩ := Option.map_eq_some_iff.1 hbare
      cases heq
      simp only at h hle
      obtain ⟨m, rfl⟩ : ∃ k, m = k + 1 := ⟨m - 1, by omega⟩
      have hle' : r.length ≤ m := by omega
      obtain ⟨i, hi, hitem⟩ :=
        ih k (Nat.lt_succ_self k) h (fun hstrays => hs (.step hu hstep' hstrays)) hle'
      exact ⟨i, (readPattern_step hu hstep').trans hi, hitem⟩

/-! ## Patterns behind an anchor -/

/-- A closing parenthesis of the text closes a group that the text does not open. -/
def Strays (text : List Char) : Prop := PatternState.Strays {} text

/-- The expression of a pattern as far as it is well formed, the space that it takes aside. -/
def Expr.read? (text : List Char) : Option Expr :=
  match readPattern text.length {} text with
  | some i => if i.height ≤ nestLimit then some i.expr else none
  | none => none

theorem Expr.parse?_eq_read? (text : List Char) : parse? text = (read? text).filter fits := by
  unfold parse? read?
  cases readPattern text.length {} text with
  | none => rfl
  | some i =>
    by_cases hheight : i.height ≤ nestLimit
    · cases hfits : i.expr.fits <;> simp [Option.filter, hheight, hfits]
    · simp [hheight]

theorem Expr.read?_eq_none (h : Strays s) : read? s = none := by
  rw [read?, h.readPattern_eq_none]

/-- The group around a pattern that is to match at the start only. -/
def anchorFrame : GroupFrame := ⟨[⟨.look .start, 0, false⟩], [], {}, false⟩

theorem readPattern_anchored (n : Nat) (s : List Char) :
    readPattern (n + 2) {} ('^' :: '(' :: '?' :: ':' :: (s ++ [')'])) =
      readPattern n (PatternState.within {} anchorFrame) (s ++ [')']) := by
  rw [readPattern_step rfl rfl, readPattern_step rfl rfl]
  rfl

/-- A pattern that is good behind an anchor is good on its own, unless it strays, and stands behind
the anchor as a whole. -/
theorem Expr.parse?_anchored {e : Expr} (h : parse? ("^(?:".toList ++ (s ++ [')'])) = some e)
    (hs : ¬ Strays s) : ∃ inner, read? s = some inner ∧ e = sequence [look .start, inner] := by
  rw [parse?_eq_read?] at h
  obtain ⟨h, -⟩ := Option.filter_eq_some_iff.1 h
  unfold read? at h
  split at h
  · rename_i item hitem
    have hlength : ("^(?:".toList ++ (s ++ [')'])).length = s.length + 3 + 2 := by simp
    rw [hlength] at hitem
    obtain ⟨i, hi, rfl⟩ :=
      readPattern_within ((readPattern_anchored _ _).symm.trans hitem) hs (Nat.le_refl _)
    split at h
    · rename_i hheight
      have hitem : anchorFrame.close i =
          ⟨sequence [look .start, i.expr], max (max 0 (i.height + 1)) 0 + 1, false⟩ := rfl
      rw [hitem] at h hheight
      simp only at hheight
      have hinner : i.height ≤ nestLimit := by omega
      refine ⟨i.expr, ?_, (Option.some.inj h).symm⟩
      simp only [read?, hi, hinner, if_true]
    · cases h
  · cases h

end TopDown.Pattern
