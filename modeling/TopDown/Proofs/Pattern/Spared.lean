import TopDown.Pattern.Parse

/-!
# Readers in front of a closing parenthesis

Which texts a reader takes for one and the same, if a closing parenthesis stands behind one of them.
The parenthesis is not a part of what is read, unless the reader comes to the very end.

* `Spares` : what a reader makes of a text with the parenthesis and without it;
* `Flags.SkipsTo` : what is left of both texts behind blanks and comments;
* `spares_readEscape` : the reader of escapes. Only a word boundary with an open brace behind it,
  `HangsOpen`, is another matter: in front of the parenthesis it is taken for one without a name.
-/

namespace TopDown.Pattern

open Text

/-! ## One more parenthesis at the end -/

/-- What a reader makes of a text with a parenthesis behind it, `closed`, and of the text without
it, `bare`: it reads to the very end, or it reads the same from both and leaves the parenthesis
behind a rest of at most `n` characters. -/
def Spares {α : Type} (n : Nat) (closed bare : Option (α × List Char)) : Prop :=
  ∀ v rest, closed = some (v, rest) → rest ≠ [] →
    ∃ r, rest = r ++ [')'] ∧ r.length ≤ n ∧ bare = some (v, r)

namespace Spares

variable {α β : Type} {m n : Nat} {closed bare : Option (α × List Char)} {v : α} {r : List Char}

theorem fails : Spares n none bare := nofun

/-- Nothing is said of a reader that reads to the end. -/
theorem ends : Spares n (some (v, [])) bare := by
  intro _ rest h hrest
  cases h
  exact absurd rfl hrest

theorem stays (h : r.length ≤ n) : Spares n (some (v, r ++ [')'])) (some (v, r)) := by
  intro _ rest hclosed _
  cases hclosed
  exact ⟨r, rfl, h, rfl⟩

/-- What is read does not depend on the rest. -/
theorem keeps (o : Option α) (k : α → β) (h : r.length ≤ n) :
    Spares n (o.map fun a => (k a, r ++ [')'])) (o.map fun a => (k a, r)) := by
  cases o with
  | none => exact .fails
  | some v => exact .stays h

theorem mono (h : Spares m closed bare) (hle : m ≤ n) : Spares n closed bare := by
  intro v rest hclosed hrest
  obtain ⟨r, hr, hlength, hbare⟩ := h v rest hclosed hrest
  exact ⟨r, hr, Nat.le_trans hlength hle, hbare⟩

theorem map (h : Spares n closed bare) (k : α → β) :
    Spares n (closed.map fun a => (k a.1, a.2)) (bare.map fun a => (k a.1, a.2)) := by
  intro w rest hclosed hrest
  obtain ⟨⟨v, rest⟩, hv, hw⟩ := Option.map_eq_some_iff.1 hclosed
  cases hw
  obtain ⟨r, hr, hlength, hbare⟩ := h v rest hv hrest
  exact ⟨r, hr, hlength, by rw [hbare]; rfl⟩

end Spares

/-- Another character in front of the text and the parenthesis is one in front of the text. -/
theorem concat_ne_cons {c : Char} (hc : c ≠ ')') {s : List Char} (h : ∀ u, s ≠ c :: u)
    (u : List Char) : s ++ [')'] ≠ c :: u := by
  cases s with
  | nil => simp [Ne.symm hc]
  | cons d s =>
    intro heq
    exact h s (by rw [(List.cons.inj heq).1])

theorem of_cons_eq_concat {c : Char} (hc : c ≠ ')') {s r : List Char} (h : c :: s = r ++ [')']) :
    ∃ u, r = c :: u ∧ s = u ++ [')'] := by
  cases r with
  | nil => exact absurd (List.cons.inj h).1 hc
  | cons d u =>
    cases h
    exact ⟨u, rfl, rfl⟩

/-! ## Blanks and comments -/

theorem skipIgnored_concat (inComment : Bool) (s : List Char) :
    skipIgnored inComment (s ++ [')']) = skipIgnored inComment s ++ [')'] ∨
      skipIgnored inComment (s ++ [')']) = [] ∧ skipIgnored inComment s = [] := by
  induction s generalizing inComment with
  | nil => cases inComment <;> simp [skipIgnored, isBlank]
  | cons c s ih =>
    simp only [List.cons_append, skipIgnored]
    split
    · exact ih _
    · split
      · exact ih _
      · split
        · exact ih _
        · exact .inl rfl

theorem length_skipIgnored_le (inComment : Bool) (s : List Char) :
    (skipIgnored inComment s).length ≤ s.length := by
  induction s generalizing inComment with
  | nil => simp [skipIgnored]
  | cons c s ih =>
    have hle (b : Bool) : (skipIgnored b s).length ≤ (c :: s).length :=
      Nat.le_trans (ih b) (Nat.le_succ _)
    unfold skipIgnored
    split
    · exact hle _
    · split
      · exact hle _
      · split
        · exact hle _
        · exact Nat.le_refl _

theorem Flags.length_skip_le (f : Flags) (s : List Char) : (f.skip s).length ≤ s.length := by
  unfold skip
  split
  · exact length_skipIgnored_le ..
  · exact Nat.le_refl _

/-- How the texts go on, with the parenthesis and without it, behind blanks and comments. -/
inductive Flags.SkipsTo (n : Nat) : List Char → List Char → Prop where
  | cons (c : Char) {u : List Char} (h : u.length < n) : SkipsTo n (c :: (u ++ [')'])) (c :: u)
  | parenthesis : SkipsTo n [')'] []
  /-- An open comment hides the parenthesis. -/
  | hidden : SkipsTo n [] []

theorem Flags.skipsTo (f : Flags) (s : List Char) :
    SkipsTo s.length (f.skip (s ++ [')'])) (f.skip s) := by
  have hle := f.length_skip_le s
  have hskip : f.skip (s ++ [')']) = f.skip s ++ [')'] ∨
      f.skip (s ++ [')']) = [] ∧ f.skip s = [] := by
    unfold skip
    split
    · exact skipIgnored_concat ..
    · exact .inl rfl
  rcases hskip with hskip | ⟨hskip, hs⟩
  · rw [hskip]
    cases hs : f.skip s with
    | nil => exact .parenthesis
    | cons c u =>
      rw [hs] at hle
      exact .cons c hle
  · rw [hskip, hs]
    exact .hidden

/-- A reader of what is left spares the parenthesis too. -/
theorem Flags.SkipsTo.spares {α : Type} {g g' : List Char → Option (α × List Char)} {n : Nat}
    {t u : List Char} (h : SkipsTo n t u) (hg : ∀ s, Spares s.length (g (s ++ [')'])) (g' s))
    (hends : ∀ v rest, g [] = some (v, rest) → rest = []) : Spares n (g t) (g' u) := by
  cases h with
  | @cons c u hu => exact (hg (c :: u)).mono hu
  | parenthesis => exact (hg []).mono (Nat.zero_le _)
  | hidden =>
    intro v rest hv hrest
    exact absurd (hends v rest hv) hrest

theorem Flags.skip_nil (f : Flags) : f.skip [] = [] := by
  unfold skip
  split <;> rfl

/-- What is left in front of the parenthesis, if anything is left at all. -/
theorem Flags.SkipsTo.eq_concat {n : Nat} {t u : List Char} (h : SkipsTo n t u) (ht : t ≠ []) :
    t = u ++ [')'] ∧ u.length ≤ n := by
  cases h with
  | cons c h => exact ⟨rfl, h⟩
  | parenthesis => exact ⟨rfl, Nat.zero_le _⟩
  | hidden => exact absurd rfl ht

theorem Flags.skip_parenthesis (f : Flags) : f.skip [')'] = [')'] := by
  unfold skip
  split <;> rfl

/-! ## Escapes -/

variable {f : Flags}

theorem takeChars_nil {n : Nat} {v rest : List Char} (h : takeChars f n [] = some (v, rest)) :
    rest = [] := by
  cases n with
  | zero => cases h; rfl
  | succ n => rw [takeChars, Flags.skip_nil] at h; cases h

theorem takeBraced_nil (n : Nat) : takeBraced f n [] = none := by
  cases n with
  | zero => rfl
  | succ n => rw [takeBraced, Flags.skip_nil]

theorem spares_takeChars (n : Nat) (s : List Char) :
    Spares s.length (takeChars f n (s ++ [')'])) (takeChars f n s) := by
  induction n generalizing s with
  | zero => exact .stays (Nat.le_refl _)
  | succ n ih =>
    unfold takeChars
    have hskip := f.skipsTo s
    generalize f.skip (s ++ [')']) = t, f.skip s = u at hskip ⊢
    cases hskip with
    | cons c h => exact ((ih _).map _).mono (Nat.le_of_lt h)
    | parenthesis =>
      intro v rest h hrest
      obtain ⟨a, ha, hv⟩ := Option.map_eq_some_iff.1 h
      cases hv
      exact absurd (takeChars_nil ha) hrest
    | hidden => exact .fails

/-- A text in braces. The parenthesis allows for one step more, which is never taken. -/
theorem spares_takeBraced {n m : Nat} {s : List Char} (hm : s.length < m) :
    Spares s.length (takeBraced f n (s ++ [')'])) (takeBraced f m s) := by
  induction n generalizing s m with
  | zero => exact .fails
  | succ n ih =>
    obtain ⟨m, rfl⟩ : ∃ k, m = k + 1 := ⟨m - 1, by omega⟩
    unfold takeBraced
    have hskip := f.skipsTo s
    generalize f.skip (s ++ [')']) = t, f.skip s = u at hskip ⊢
    cases hskip with
    | cons c h =>
      by_cases hc : c = '\x7d'
      · subst hc
        exact .stays (Nat.le_of_lt h)
      · simp only
        exact ((ih (by omega)).map _).mono (Nat.le_of_lt h)
    | parenthesis =>
      change Spares _ ((takeBraced f n []).map _) _
      rw [takeBraced_nil]
      exact .fails
    | hidden => exact .fails

/-- Digits with or without braces around them. A brace opens in both texts or in none. -/
theorem spares_readHexEscape (n : Nat) (s : List Char) :
    Spares s.length (readHexEscape f n (s ++ [')'])) (readHexEscape f n s) := by
  intro c rest h hrest
  unfold readHexEscape at h ⊢
  have hskip := f.skipsTo s
  generalize f.skip (s ++ [')']) = t, f.skip s = u at hskip h ⊢
  split at h
  · cases hskip with
    | @cons _ u hu =>
      split at h
      · rename_i ds r hds
        obtain ⟨c, hc, hr⟩ := Option.map_eq_some_iff.1 h
        cases hr
        obtain ⟨r, rfl, hle, hbare⟩ :=
          spares_takeBraced (Nat.lt_succ_self u.length) ds rest hds hrest
        exact ⟨r, rfl, by omega, by simp [hbare, hc]⟩
      · cases h
  · rename_i hplain
    split at h
    · rename_i ds r hds
      split at h
      · rename_i hc
        split at h
        · cases h
        · rename_i hallowed
          cases h
          obtain ⟨r, rfl, hle, hbare⟩ :=
            hskip.spares (spares_takeChars n) (fun _ _ => takeChars_nil) ds rest hds hrest
          refine ⟨r, rfl, hle, ?_⟩
          split
          · cases hskip
            exact absurd rfl (hplain _)
          · simp only [hbare, hc, hallowed]
            rfl
      · cases h
    · cases h

theorem spares_readPropertyClass (negated : Bool) (s : List Char) :
    Spares s.length (readPropertyClass f negated (s ++ [')'])) (readPropertyClass f negated s) := by
  intro set rest h hrest
  unfold readPropertyClass at h ⊢
  have hskip := f.skipsTo s
  generalize f.skip (s ++ [')']) = t, f.skip s = u at hskip h ⊢
  split at h
  · cases h
  · rename_i hunicode
    rw [if_neg hunicode]
    split at h
    · cases hskip with
      | @cons _ u hu =>
        cases hq : takeBraced f ((u ++ [')']).length + 1) (u ++ [')']) with
        | none =>
          rw [hq] at h
          cases h
        | some a =>
          obtain ⟨text, r⟩ := a
          rw [hq] at h
          obtain ⟨set, hset, hr⟩ := Option.map_eq_some_iff.1 h
          cases hr
          obtain ⟨r, rfl, hle, hbare⟩ :=
            spares_takeBraced (Nat.lt_succ_self u.length) text rest hq hrest
          exact ⟨r, rfl, by omega, by simp [hbare, hset]⟩
    · cases h
    · rename_i c r hbrace
      by_cases hc : c = '\\'
      · simp only [hc, if_true] at h
        cases h
      · simp only [hc, if_false] at h
        obtain ⟨set, hset, hr⟩ := Option.map_eq_some_iff.1 h
        cases hr
        cases hskip with
        | @cons _ u hu => exact ⟨u, rfl, by omega, by simp [hc, hset]⟩
        | parenthesis => exact absurd rfl hrest

theorem spares_readNamedClass (negated : Bool) (set : Bool → CharSet) (s : List Char) :
    Spares s.length (readNamedClass f negated set (s ++ [')']))
      (readNamedClass f negated set s) := by
  unfold readNamedClass
  split
  · exact .fails
  · exact .stays (Nat.le_refl _)

/-- An open brace that nothing follows but blanks and comments. -/
def HangsOpen (f : Flags) (s : List Char) : Prop := ∃ u, s = '\x7b' :: u ∧ f.skip u = []

theorem spares_readBoundary {s : List Char} (hs : ¬ HangsOpen f s) :
    Spares s.length (readBoundary f (s ++ [')'])) (readBoundary f s) := by
  cases s with
  | nil => exact .stays (Nat.le_refl _)
  | cons c s =>
    by_cases hc : c = '\x7b'
    · subst hc
      intro l rest h hrest
      unfold readBoundary at h ⊢
      simp only [List.cons_append] at h ⊢
      have hskip := f.skipsTo s
      have hne : f.skip s ≠ [] := fun h => hs ⟨s, rfl, h⟩
      generalize f.skip (s ++ [')']) = t, f.skip s = u at hskip hne h ⊢
      cases hskip with
      | cons d hu =>
        simp only at h ⊢
        split at h
        · rename_i hd
          rw [if_pos hd]
          split at h
          · rename_i name after hname
            split at h
            all_goals cases h
            all_goals
              obtain ⟨r, rfl, hle, hbare⟩ :=
                spares_takeBraced (Nat.lt_succ_self s.length) name _ hname hrest
              exact ⟨r, rfl, Nat.le_succ_of_le hle, by simp [*]⟩
          · cases h
        · rename_i hd
          cases h
          exact ⟨'\x7b' :: s, rfl, Nat.le_refl _, if_neg hd⟩
      | parenthesis => exact absurd rfl hne
      | hidden => exact absurd rfl hne
    · have hplain (t : List Char) :
          readBoundary f (c :: t) = some (.wordBoundary f.unicode, c :: t) := by
        unfold readBoundary
        split
        · rename_i h
          cases h
          exact absurd rfl hc
        · rfl
      rw [List.cons_append, hplain, hplain]
      exact .stays (Nat.le_refl _)

/-- An escape. All readers but that of the boundaries get by with what they are given. -/
theorem spares_readEscape {s : List Char} (hs : ∀ u, s = 'b' :: u → ¬ HangsOpen f u) :
    Spares s.length (readEscape f (s ++ [')'])) (readEscape f s) := by
  cases s with
  | nil =>
    have hparenthesis : isEscapable ')' = true := by decide
    simp only [List.nil_append, readEscape, hparenthesis, if_true]
    exact .ends
  | cons c s =>
    apply Spares.mono _ (Nat.le_succ s.length)
    simp only [List.cons_append, readEscape]
    by_cases hc : isEscapable c = true
    · rw [if_pos hc, if_pos hc]
      exact .stays (Nat.le_refl _)
    · rw [if_neg hc, if_neg hc]
      split
      all_goals first
        | exact .stays (Nat.le_refl _)
        | exact .fails
        | exact spares_readNamedClass _ _ s
        | exact (spares_readHexEscape _ s).map _
        | exact (spares_readPropertyClass _ s).map _
        | exact (spares_readBoundary (hs s rfl)).map _

end TopDown.Pattern
