import TopDown.Proofs.Text.Lines

/-!
# Where a quoted text ends

A quoted text ends at the first quote that no backslash takes along, if there is one. These are the
texts between quotes and the quotes that nothing closes, described without the functions that look
for them.

* `Quoted.Body` : a text that can stand between quotes; `Quoted.Closes` : a text that such a text
  and a quote start; `Quoted.read_eq_some_iff`, `Quoted.inside_eq_none_iff`;
* `Balanced` : a text in which every quote that opens a quoted text has one that closes it;
* `LeavesOpen`, `leavesQuoteOpen_iff` : a quote opens a quoted text and none closes it.
-/

namespace TopDown.Text

namespace Quoted

/-- The text between two quotes. A backslash takes the character after it along. -/
inductive Body (q : Char) : List Char → Prop
  | nil : Body q []
  | escaped (c : Char) {t : List Char} (tail : Body q t) : Body q ('\\' :: c :: t)
  | plain {c : Char} {t : List Char} (quote : c ≠ q) (backslash : c ≠ '\\') (tail : Body q t) :
    Body q (c :: t)

/-- A quote closes the quoted text that `s` starts with. -/
def Closes (q : Char) (s : List Char) : Prop := ∃ t rest, s = t ++ q :: rest ∧ Body q t

variable {q : Char} {s t rest : List Char}

theorem Body.isContent (hq : q ≠ '\\') (h : Body q t) : IsContent q t := by
  induction h with
  | nil => exact isContent_nil hq
  | escaped c _ ih => exact ih.escape c
  | plain hquote hbackslash _ ih => exact ih.cons hquote hbackslash

theorem body_of_inside (h : inside q s = some (t, rest)) : Body q t := by
  fun_induction inside q s generalizing t with
  | case1 => cases h
  | case2 c s ih =>
    obtain ⟨⟨u, r⟩, hu, he⟩ := Option.map_eq_some_iff.1 h
    cases he
    exact .escaped c (ih hu)
  | case3 =>
    cases h
    exact .nil
  | case4 => cases h
  | case5 c s _ hquote hbackslash ih =>
    obtain ⟨⟨u, r⟩, hu, he⟩ := Option.map_eq_some_iff.1 h
    cases he
    exact .plain hquote hbackslash (ih hu)

theorem inside_eq_some_iff (hq : q ≠ '\\') :
    inside q s = some (t, rest) ↔ s = t ++ q :: rest ∧ Body q t := by
  constructor
  · exact fun h => ⟨(inside_eq_some hq h).1, body_of_inside h⟩
  · rintro ⟨rfl, hbody⟩
    exact hbody.isContent hq rest

theorem read_eq_some_iff (hq : q ≠ '\\') :
    read q s = some (t, rest) ↔ s = q :: (t ++ q :: rest) ∧ Body q t := by
  cases s with
  | nil => simp [read]
  | cons c s =>
    rw [read]
    split
    · rename_i hc
      rw [inside_eq_some_iff hq, hc, List.cons.injEq, and_iff_right rfl]
    · rename_i hc
      simp [hc]

/-- What is read between quotes is read whatever stands behind the closing one. -/
theorem Body.read (hq : q ≠ '\\') (h : Body q t) (rest : List Char) :
    read q (q :: (t ++ q :: rest)) = some (t, rest) := (read_eq_some_iff hq).2 ⟨rfl, h⟩

theorem inside_eq_none_iff (hq : q ≠ '\\') : inside q s = none ↔ ¬ Closes q s := by
  rw [Option.eq_none_iff_forall_ne_some]
  constructor
  · rintro h ⟨t, rest, hs⟩
    exact h (t, rest) ((inside_eq_some_iff hq).2 hs)
  · rintro h ⟨t, rest⟩ hread
    exact h ⟨t, rest, (inside_eq_some_iff hq).1 hread⟩

theorem read_eq_none_iff (hq : q ≠ '\\') :
    read q s = none ↔ ∀ rest, s = q :: rest → ¬ Closes q rest := by
  cases s with
  | nil => simp [read]
  | cons c s =>
    rw [read]
    split
    · rename_i hc
      simp [hc, inside_eq_none_iff hq]
    · rename_i hc
      simp [hc]

theorem Closes.append (h : Closes q s) (more : List Char) : Closes q (s ++ more) := by
  obtain ⟨t, rest, rfl, hbody⟩ := h
  exact ⟨t, rest ++ more, by simp, hbody⟩

end Quoted

/-! ## Double quotes that stay open -/

/-- Every double quote that opens a quoted text has one that closes it. Outside quoted texts a
backslash has no meaning. -/
inductive Balanced : List Char → Prop
  | nil : Balanced []
  | plain {c : Char} {s : List Char} (quote : c ≠ '"') (tail : Balanced s) : Balanced (c :: s)
  | quoted {t s : List Char} (body : Quoted.Body '"' t) (tail : Balanced s) :
    Balanced ('"' :: (t ++ '"' :: s))

/-- A double quote opens a quoted text, and no double quote behind it closes that. -/
def LeavesOpen (s : List Char) : Prop :=
  ∃ before rest, s = before ++ '"' :: rest ∧ Balanced before ∧ ¬ Quoted.Closes '"' rest

theorem balanced_of_not_mem {s : List Char} (h : '"' ∉ s) : Balanced s := by
  induction s with
  | nil => exact .nil
  | cons c s ih =>
    rw [List.mem_cons, not_or] at h
    exact .plain (fun hc => h.1 hc.symm) (ih h.2)

theorem leavesQuoteOpen_cons (c : Char) (s : List Char) :
    leavesQuoteOpen false (c :: s) = leavesQuoteOpen (c = '"') s := by
  cases s with
  | nil => by_cases hc : c = '"' <;> simp [leavesQuoteOpen, hc]
  | cons d s =>
    rw [leavesQuoteOpen]
    by_cases hc : c = '"' <;> simp [hc]

/-- Inside a quoted text the closing quote is looked for. -/
theorem leavesQuoteOpen_inside (s : List Char) :
    leavesQuoteOpen true s = match Quoted.inside '"' s with
      | none => true
      | some (_, rest) => leavesQuoteOpen false rest := by
  fun_induction Quoted.inside '"' s with
  | case1 => rfl
  | case2 c s ih =>
    rw [leavesQuoteOpen, if_pos (by simp), ih]
    cases Quoted.inside '"' s <;> rfl
  | case3 s =>
    cases s with
    | nil => rfl
    | cons d s =>
      rw [leavesQuoteOpen]
      simp
  | case4 s h =>
    cases s with
    | nil => rfl
    | cons d s => exact (h d s rfl rfl).elim
  | case5 c s _ hquote hbackslash ih =>
    have hcons : leavesQuoteOpen true (c :: s) = leavesQuoteOpen true s := by
      cases s with
      | nil => simp [leavesQuoteOpen, hquote]
      | cons d s =>
        rw [leavesQuoteOpen]
        simp [hquote, hbackslash]
    rw [hcons, ih]
    cases Quoted.inside '"' s <;> rfl

theorem Balanced.leavesQuoteOpen_append {before : List Char} (h : Balanced before)
    (s : List Char) : leavesQuoteOpen false (before ++ s) = leavesQuoteOpen false s := by
  induction h with
  | nil => rfl
  | plain hquote _ ih =>
    rw [List.cons_append, leavesQuoteOpen_cons, decide_eq_false hquote, ih]
  | @quoted t before hbody _ ih =>
    have hread := (Quoted.inside_eq_some_iff (by decide)).2
      ⟨(rfl : t ++ '"' :: (before ++ s) = _), hbody⟩
    rw [List.cons_append, List.append_assoc, List.cons_append, leavesQuoteOpen_cons,
      decide_eq_true rfl, leavesQuoteOpen_inside, hread]
    exact ih

theorem Balanced.leavesQuoteOpen {s : List Char} (h : Balanced s) :
    leavesQuoteOpen false s = false := by
  have happend := h.leavesQuoteOpen_append []
  rwa [List.append_nil] at happend

/-- A quote that is found open at the end of a text opens a quoted text that no quote closes. -/
theorem leavesQuoteOpen_iff (s : List Char) : leavesQuoteOpen false s = true ↔ LeavesOpen s := by
  constructor
  · intro h
    induction hn : s.length using Nat.strongRecOn generalizing s with
    | ind n ih =>
    cases s with
    | nil => cases h
    | cons c s =>
      rw [leavesQuoteOpen_cons] at h
      by_cases hc : c = '"'
      · rw [decide_eq_true hc, leavesQuoteOpen_inside] at h
        subst hc
        cases hread : Quoted.inside '"' s with
        | none => exact ⟨[], s, rfl, .nil, (Quoted.inside_eq_none_iff (by decide)).1 hread⟩
        | some read =>
          obtain ⟨t, rest⟩ := read
          rw [hread] at h
          obtain ⟨rfl, hbody⟩ := (Quoted.inside_eq_some_iff (by decide)).1 hread
          have hlt : rest.length < n := by
            rw [← hn]
            simp only [List.length_cons, List.length_append]
            omega
          obtain ⟨before, rest', rfl, hbefore, hopen⟩ := ih _ hlt rest h rfl
          exact ⟨_, rest', by simp, .quoted hbody hbefore, hopen⟩
      · rw [decide_eq_false hc] at h
        obtain ⟨before, rest, rfl, hbefore, hopen⟩ := ih _ (by simp [← hn]) s h rfl
        exact ⟨_, rest, rfl, .plain hc hbefore, hopen⟩
  · rintro ⟨before, rest, rfl, hbefore, hopen⟩
    rw [hbefore.leavesQuoteOpen_append, leavesQuoteOpen_cons, decide_eq_true rfl,
      leavesQuoteOpen_inside, (Quoted.inside_eq_none_iff (by decide)).2 hopen]

end TopDown.Text
