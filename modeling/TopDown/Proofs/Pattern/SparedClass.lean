import TopDown.Proofs.Pattern.Spared

/-!
# Classes in front of a closing parenthesis

A class ends with its bracket, so a closing parenthesis at the end of the text is not a part of it.
Each reader is shown to take the text with the parenthesis behind it for what it takes the text
without it, from the items of a class up to the whole of it.

* `readClassRange_concat` : one item;
* `readAsciiClass_concat`, `openClass_concat` : a named class, and how a class opens;
* `classStep_concat` : one step. The parenthesis is only read by a class that is never closed;
* `spares_readClass` : the whole class.
-/

namespace TopDown.Pattern

open Text

variable {f : Flags}

/-- An escape that stands for characters is read alike. A boundary, which may be misread, stands for
none. -/
theorem readEscape_concat {s : List Char} {v : Primitive} {rest : List Char}
    (h : readEscape f (s ++ [')']) = some (v, rest)) (hv : ∀ l, v ≠ .look l) (hrest : rest ≠ []) :
    ∃ r, rest = r ++ [')'] ∧ r.length ≤ s.length ∧ readEscape f s = some (v, r) := by
  refine spares_readEscape ?_ v rest h hrest
  rintro u rfl -
  have hb : isEscapable 'b' = false := by decide
  simp only [List.cons_append, readEscape, hb] at h
  obtain ⟨a, -, ha⟩ := Option.map_eq_some_iff.1 h
  cases ha
  exact hv _ rfl

theorem readClassPrimitive_of_ne {c : Char} (hc : c ≠ '\\') (s : List Char) :
    readClassPrimitive f (c :: s) =
      if !f.unicode && c.toNat > 127 then none else some (.literal c, s) := by
  unfold readClassPrimitive
  simp

theorem readClassPrimitive_concat {c : Char} {s : List Char} {v : Primitive} {rest : List Char}
    (h : readClassPrimitive f (c :: (s ++ [')'])) = some (v, rest)) (hv : ∀ l, v ≠ .look l)
    (hrest : rest ≠ []) :
    ∃ r, rest = r ++ [')'] ∧ r.length ≤ s.length ∧ readClassPrimitive f (c :: s) = some (v, r) := by
  by_cases hc : c = '\\'
  · subst hc
    unfold readClassPrimitive at h ⊢
    simp only at h ⊢
    split at h
    · rename_i d r hd
      split at h
      · cases h
      · rename_i hallowed
        cases h
        obtain ⟨r, rfl, hle, hbare⟩ := readEscape_concat hd hv hrest
        exact ⟨r, rfl, hle, by simp [hbare, hallowed]⟩
    · rename_i hset
      obtain ⟨r, rfl, hle, hbare⟩ := readEscape_concat h hv hrest
      refine ⟨r, rfl, hle, ?_⟩
      rw [hbare]
      cases v with
      | literal c => exact absurd h (hset c _)
      | look l => exact absurd rfl (hv l)
      | set s => rfl
  · rw [readClassPrimitive_of_ne hc] at h ⊢
    split at h
    · cases h
    · rename_i hallowed
      cases h
      exact ⟨s, rfl, Nat.le_refl _, if_neg hallowed⟩

theorem head?_concat (s : List Char) : (s ++ [')']).head? = s.head?.or (some ')') := by
  cases s <;> rfl

theorem dropWhile_isBlank_concat (s : List Char) :
    (s ++ [')']).dropWhile isBlank = s.dropWhile isBlank ++ [')'] := by
  have hparenthesis : isBlank ')' = false := by decide
  rw [List.dropWhile_append]
  cases s.dropWhile isBlank with
  | nil => simp [hparenthesis]
  | cons c s => rfl

/-- What stands behind a hyphen is seen alike, but for the parenthesis itself. -/
theorem behindHyphen_concat {d : Char} (hd : d ≠ ')') (s : List Char) :
    behindHyphen f (s ++ [')']) = some d ↔ behindHyphen f s = some d := by
  have hbehind : behindHyphen f (s ++ [')']) = (behindHyphen f s).or (some ')') := by
    unfold behindHyphen
    split
    · rw [dropWhile_isBlank_concat]
      cases s.dropWhile isBlank with
      | nil => rfl
      | cons c s =>
        by_cases hc : c = '#'
        · subst hc
          simp only [List.cons_append, dropWhile_isBlank_concat, head?_concat]
        · simp [hc]
    · exact head?_concat s
  rw [hbehind]
  cases behindHyphen f s with
  | none => simpa using Ne.symm hd
  | some c => rfl

/-- The characters that an item of a class stands for on its own. -/
def Primitive.set? : Primitive → Option CharSet
  | .literal c => some (.ofChar c)
  | .set s => some s
  | .look _ => none

/-- The hyphen in front of a text stands for itself. -/
def IsLastHyphen (f : Flags) (s : List Char) : Prop :=
  behindHyphen f s = some ']' ∨ behindHyphen f s = some '-'

section

variable {s r : List Char} {first : Primitive}

theorem readClassRange_nil (h : readClassPrimitive f s = some (first, r)) (hr : f.skip r = []) :
    readClassRange f s = none := by
  unfold readClassRange
  simp only [h, hr]

theorem readClassRange_look {l : Look} (h : readClassPrimitive f s = some (.look l, r)) :
    readClassRange f s = none := by
  unfold readClassRange
  simp only [h]
  split
  · rfl
  · split <;> rfl
  · rfl

theorem readClassRange_plain (h : readClassPrimitive f s = some (first, r)) (hne : f.skip r ≠ [])
    (hplain : ∀ after, f.skip r ≠ '-' :: after) :
    readClassRange f s = first.set?.map (·, f.skip r) := by
  unfold readClassRange
  simp only [h]
  cases hr : f.skip r with
  | nil => exact absurd hr hne
  | cons c u =>
    have hc : c ≠ '-' := by
      rintro rfl
      exact hplain u hr
    cases first <;> simp [Primitive.set?]

theorem readClassRange_hyphen {after : List Char} (h : readClassPrimitive f s = some (first, r))
    (hr : f.skip r = '-' :: after) (hlast : IsLastHyphen f after) :
    readClassRange f s = first.set?.map (·, f.skip r) := by
  unfold readClassRange IsLastHyphen at *
  simp only [h, hr, Bool.or_eq_true, decide_eq_true_eq, hlast, if_true]
  cases first <;> rfl

/-- The range between two characters. -/
theorem readClassRange_eq_some {after rest : List Char} {set : CharSet}
    (h : readClassPrimitive f s = some (first, r)) (hr : f.skip r = '-' :: after)
    (hlast : ¬ IsLastHyphen f after) :
    readClassRange f s = some (set, rest) ↔
      ∃ lo hi, first = .literal lo ∧ lo ≤ hi ∧ set = .between lo.toNat hi.toNat ∧
        readClassPrimitive f (f.skip after) = some (.literal hi, rest) := by
  unfold readClassRange IsLastHyphen at *
  simp only [h, hr, Bool.or_eq_true, decide_eq_true_eq, hlast, if_false]
  constructor
  · intro hrange
    split at hrange
    · rename_i lo hi rest' hhi
      split at hrange
      · rename_i hle
        cases hrange
        exact ⟨lo, hi, rfl, hle, rfl, hhi⟩
      · cases hrange
    · cases hrange
  · rintro ⟨lo, hi, rfl, hle, rfl, hhi⟩
    simp only [hhi, hle, if_true]

end

/-- The upper end of a range is read alike. -/
theorem readUpper_concat {s rest : List Char} {hi : Char}
    (h : readClassPrimitive f (f.skip (s ++ [')'])) = some (.literal hi, rest))
    (hrest : rest ≠ []) :
    ∃ r, rest = r ++ [')'] ∧ r.length ≤ s.length ∧
      readClassPrimitive f (f.skip s) = some (.literal hi, r) := by
  have hskip := f.skipsTo s
  generalize f.skip (s ++ [')']) = t, f.skip s = u at hskip h ⊢
  cases hskip with
  | cons c hu =>
    obtain ⟨r, rfl, hle, hbare⟩ := readClassPrimitive_concat h nofun hrest
    exact ⟨r, rfl, by omega, hbare⟩
  | parenthesis =>
    rw [readClassPrimitive_of_ne (by decide)] at h
    split at h
    · cases h
    · cases h
      exact absurd rfl hrest
  | hidden => cases h

/-- An item with a hyphen behind it. The hyphen makes a range, unless a bracket or one more hyphen
follows, and these follow in both texts or in none. -/
theorem spares_readClassRange_hyphen {s s' r r' u : List Char} {first : Primitive}
    (hclosed : readClassPrimitive f s' = some (first, r')) (hr' : f.skip r' = '-' :: (u ++ [')']))
    (hbare : readClassPrimitive f s = some (first, r)) (hr : f.skip r = '-' :: u) :
    Spares (u.length + 1) (readClassRange f s') (readClassRange f s) := by
  have hlast : IsLastHyphen f (u ++ [')']) ↔ IsLastHyphen f u :=
    or_congr (behindHyphen_concat (by decide) u) (behindHyphen_concat (by decide) u)
  by_cases hbehind : IsLastHyphen f u
  · rw [readClassRange_hyphen hclosed hr' (hlast.2 hbehind), readClassRange_hyphen hbare hr hbehind,
      hr', hr]
    exact .keeps (r := '-' :: u) _ _ (Nat.le_refl _)
  · intro set rest h hrest
    obtain ⟨lo, hi, rfl, hrange, rfl, hhi⟩ :=
      (readClassRange_eq_some hclosed hr' (mt hlast.1 hbehind)).1 h
    obtain ⟨r, rfl, hle, hhi⟩ := readUpper_concat hhi hrest
    exact ⟨r, rfl, Nat.le_succ_of_le hle,
      (readClassRange_eq_some hbare hr hbehind).2 ⟨lo, hi, rfl, hrange, rfl, hhi⟩⟩

/-- One item of a class is read alike, unless the parenthesis is all that is left. -/
theorem readClassRange_concat {c : Char} {s : List Char} {set : CharSet} {rest : List Char}
    (h : readClassRange f (c :: (s ++ [')'])) = some (set, rest)) (hrest : rest ≠ [])
    (hparenthesis : rest ≠ [')']) :
    ∃ r, rest = r ++ [')'] ∧ r.length ≤ s.length ∧ readClassRange f (c :: s) = some (set, r) := by
  cases hfirst : readClassPrimitive f (c :: (s ++ [')'])) with
  | none =>
    unfold readClassRange at h
    rw [hfirst] at h
    cases h
  | some a =>
    obtain ⟨first, r⟩ := a
    have hr : r ≠ [] := by
      rintro rfl
      rw [readClassRange_nil hfirst f.skip_nil] at h
      cases h
    have hlook (l : Look) : first ≠ .look l := by
      rintro rfl
      rw [readClassRange_look hfirst] at h
      cases h
    obtain ⟨r, rfl, hle, hbare⟩ := readClassPrimitive_concat hfirst hlook hr
    have hskip := f.skipsTo r
    generalize ht : f.skip (r ++ [')']) = t, hu : f.skip r = u at hskip
    cases hskip with
    | hidden =>
      rw [readClassRange_nil hfirst ht] at h
      cases h
    | parenthesis =>
      rw [readClassRange_plain hfirst (by simp [ht]) (by simp [ht]), ht] at h
      obtain ⟨set, -, hset⟩ := Option.map_eq_some_iff.1 h
      cases hset
      exact absurd rfl hparenthesis
    | @cons d u hd =>
      have hspares : Spares (u.length + 1) (readClassRange f (c :: (s ++ [')'])))
          (readClassRange f (c :: s)) := by
        by_cases hhyphen : d = '-'
        · subst hhyphen
          exact spares_readClassRange_hyphen hfirst ht hbare hu
        · rw [readClassRange_plain hfirst (by simp [ht]) (by simp [ht, hhyphen]),
            readClassRange_plain hbare (by simp [hu]) (by simp [hu, hhyphen]), ht, hu]
          exact .keeps (r := d :: u) _ _ (Nat.le_refl _)
      exact hspares.mono (Nat.le_trans hd hle) set rest h hrest

/-- What stands in front of a character is read alike, unless that is the parenthesis. -/
theorem dropWhile_ne_concat {d : Char} (hd : d ≠ ')') (s : List Char) :
    s.dropWhile (· != d) = [] ∧ (s ++ [')']).dropWhile (· != d) = [] ∨
      ∃ u, s.dropWhile (· != d) = d :: u ∧ (s ++ [')']).dropWhile (· != d) = d :: (u ++ [')']) ∧
        (s ++ [')']).takeWhile (· != d) = s.takeWhile (· != d) := by
  induction s with
  | nil =>
    have hd' : (')' != d) = true := by simpa using Ne.symm hd
    exact .inl ⟨rfl, by simp [hd']⟩
  | cons c s ih =>
    by_cases hc : c = d
    · subst hc
      exact .inr ⟨s, by simp, by simp, by simp⟩
    · have hc' : (c != d) = true := by simpa using hc
      simpa [List.dropWhile_cons, List.takeWhile_cons, hc'] using ih

/-- The ASCII class behind its opening and its caret. -/
def asciiBehind (f : Flags) (negated : Bool) (s : List Char) : Option (CharSet × List Char) :=
  match s.dropWhile (· != ':') with
  | ':' :: ']' :: rest =>
    (CharSet.ofClassName? (s.takeWhile (· != ':'))).map fun set =>
      (CharSet.negateIf negated (f.foldSet set), rest)
  | _ => none

theorem asciiBehind_eq_none {negated : Bool} {s : List Char}
    (h : ∀ rest, s.dropWhile (· != ':') ≠ ':' :: ']' :: rest) : asciiBehind f negated s = none := by
  unfold asciiBehind
  split
  · exact absurd ‹_› (h _)
  · rfl

theorem asciiBehind_concat (negated : Bool) (s : List Char) :
    asciiBehind f negated (s ++ [')']) =
      (asciiBehind f negated s).map fun a => (a.1, a.2 ++ [')']) := by
  rcases dropWhile_ne_concat (d := ':') (by decide) s with
    ⟨hopen, hclosed⟩ | ⟨u, hopen, hclosed, hname⟩
  · rw [asciiBehind_eq_none (by simp [hclosed]), asciiBehind_eq_none (by simp [hopen])]
    rfl
  · by_cases hbracket : ∃ v, u = ']' :: v
    · obtain ⟨v, rfl⟩ := hbracket
      unfold asciiBehind
      rw [hopen, hclosed, hname]
      simp only [List.cons_append, Option.map_map]
      rfl
    · have hplain (v : List Char) : u ≠ ']' :: v := fun h => hbracket ⟨v, h⟩
      have hplain' := concat_ne_cons (by decide) hplain
      rw [asciiBehind_eq_none (by simp [hclosed, hplain']),
        asciiBehind_eq_none (by simp [hopen, hplain])]
      rfl

theorem readAsciiClass_plain {s : List Char} (h : ∀ u, s ≠ '^' :: u) :
    readAsciiClass f ('[' :: ':' :: s) = asciiBehind f false s := by
  cases s with
  | nil => rfl
  | cons c s =>
    have hc : c ≠ '^' := by
      rintro rfl
      exact h s rfl
    unfold readAsciiClass
    simp only
    rfl

theorem readAsciiClass_eq_none {s : List Char} (h : ∀ u, s ≠ '[' :: ':' :: u) :
    readAsciiClass f s = none := by
  unfold readAsciiClass
  split
  · exact absurd rfl (h _)
  · rfl

theorem length_asciiBehind_le {negated : Bool} {s : List Char} {a : CharSet × List Char}
    (h : asciiBehind f negated s = some a) : a.2.length ≤ s.length := by
  have hle := (List.dropWhile_sublist (l := s) (· != ':')).length_le
  unfold asciiBehind at h
  split at h
  · rename_i rest hs
    obtain ⟨set, -, ha⟩ := Option.map_eq_some_iff.1 h
    cases ha
    rw [hs] at hle
    simp only [List.length_cons] at hle ⊢
    omega
  · cases h

theorem length_readAsciiClass_le {s : List Char} {a : CharSet × List Char}
    (h : readAsciiClass f ('[' :: s) = some a) : a.2.length ≤ s.length := by
  by_cases hopen : ∃ u, s = ':' :: u
  · obtain ⟨s, rfl⟩ := hopen
    by_cases hcaret : ∃ u, s = '^' :: u
    · obtain ⟨s, rfl⟩ := hcaret
      have : a.2.length ≤ s.length := length_asciiBehind_le h
      simp only [List.length_cons]
      omega
    · rw [readAsciiClass_plain fun u h => hcaret ⟨u, h⟩] at h
      have := length_asciiBehind_le h
      simp only [List.length_cons]
      omega
  · rw [readAsciiClass_eq_none fun u h => hopen ⟨u, (List.cons.inj h).2⟩] at h
    cases h

theorem readAsciiClass_concat (s : List Char) :
    readAsciiClass f (s ++ [')']) = (readAsciiClass f s).map fun a => (a.1, a.2 ++ [')']) := by
  by_cases hopen : ∃ u, s = '[' :: ':' :: u
  · obtain ⟨s, rfl⟩ := hopen
    rw [List.cons_append, List.cons_append]
    by_cases hcaret : ∃ u, s = '^' :: u
    · obtain ⟨s, rfl⟩ := hcaret
      exact asciiBehind_concat true s
    · have hplain (u : List Char) : s ≠ '^' :: u := fun h => hcaret ⟨u, h⟩
      rw [readAsciiClass_plain hplain, readAsciiClass_plain (concat_ne_cons (by decide) hplain),
        asciiBehind_concat]
  · rw [readAsciiClass_eq_none fun u h => hopen ⟨u, h⟩, readAsciiClass_eq_none]
    · rfl
    · intro u h
      rcases s with _ | ⟨a, _ | ⟨b, s⟩⟩
      · cases h
      · simp at h
      · simp only [List.cons_append, List.cons.injEq] at h
        exact hopen ⟨s, by rw [h.1, h.2.1]⟩

theorem readHyphens_hyphen {n : Nat} {u : ClassUnion} {s rest : List Char}
    (h : f.skip s = '-' :: rest) :
    readHyphens f (n + 1) u s = readHyphens f n (u.push ⟨.ofChar '-', 0⟩) rest := by
  rw [readHyphens]
  simp only [h]

theorem readHyphens_plain {n : Nat} {u : ClassUnion} {s : List Char}
    (h : ∀ rest, f.skip s ≠ '-' :: rest) : readHyphens f (n + 1) u s = (u, f.skip s) := by
  unfold readHyphens
  split
  · exact absurd ‹_› (h _)
  · rfl

theorem spares_readHyphens {n m : Nat} {u : ClassUnion} {s : List Char} (hn : s.length + 1 < n)
    (hm : s.length < m) :
    Spares s.length (some (readHyphens f n u (s ++ [')']))) (some (readHyphens f m u s)) := by
  induction n generalizing u s m with
  | zero => omega
  | succ n ih =>
    obtain ⟨m, rfl⟩ : ∃ k, m = k + 1 := ⟨m - 1, by omega⟩
    have hskip := f.skipsTo s
    generalize ht : f.skip (s ++ [')']) = t, hu : f.skip s = r at hskip
    cases hskip with
    | cons c h =>
      by_cases hc : c = '-'
      · subst hc
        rw [readHyphens_hyphen ht, readHyphens_hyphen hu]
        exact (ih (by omega) (by omega)).mono (Nat.le_of_lt h)
      · rw [readHyphens_plain (by simp [ht, hc]), readHyphens_plain (by simp [hu, hc]), ht, hu]
        exact Spares.stays (r := c :: _) h
    | parenthesis =>
      rw [readHyphens_plain (by simp [ht]), readHyphens_plain (by simp [hu]), ht, hu]
      exact Spares.stays (r := []) (Nat.zero_le _)
    | hidden =>
      rw [readHyphens_plain (by simp [ht]), ht]
      exact .ends

theorem readHyphens_nil (n : Nat) (u : ClassUnion) : readHyphens f n u [] = (u, []) := by
  cases n with
  | zero => rfl
  | succ n => rw [readHyphens_plain (by simp [f.skip_nil]), f.skip_nil]

/-- How a class opens, behind its caret and its hyphens. -/
def openBehind (negated : Bool) (a : ClassUnion × List Char) : Bool × ClassUnion × List Char :=
  match a.1.count, a.2 with
  | 0, ']' :: rest => (negated, a.1.push ⟨.ofChar ']', 0⟩, rest)
  | _, _ => (negated, a.1, a.2)

theorem openClass_caret {s rest : List Char} (h : f.skip s = '^' :: rest) :
    openClass f s = openBehind true (readHyphens f (rest.length + 1) {} rest) := by
  unfold openClass
  rw [h]
  rfl

theorem openClass_plain {s : List Char} (h : ∀ rest, f.skip s ≠ '^' :: rest) :
    openClass f s =
      openBehind false (readHyphens f ((f.skip s).length + 1) {} (f.skip s)) := by
  unfold openClass
  split
  rename_i hs
  split at hs
  · exact absurd ‹_› (h _)
  · cases hs
    rfl

theorem openBehind_bracket {b : Bool} {u : ClassUnion} {r : List Char} (h : u.count = 0) :
    openBehind b (u, ']' :: r) = (b, u.push ⟨.ofChar ']', 0⟩, r) := by
  unfold openBehind
  simp only [h]

theorem openBehind_plain {b : Bool} {u : ClassUnion} {s : List Char}
    (h : ∀ r, u.count = 0 → s ≠ ']' :: r) : openBehind b (u, s) = (b, u, s) := by
  unfold openBehind
  split
  · rename_i hcount hs
    exact absurd hs (h _ hcount)
  · rfl

theorem openBehind_concat {s rest : List Char} {b negated : Bool} {u : ClassUnion}
    (h : openBehind b (readHyphens f ((s ++ [')']).length + 1) {} (s ++ [')'])) =
      (negated, u, rest)) (hrest : rest ≠ []) :
    ∃ r, rest = r ++ [')'] ∧ r.length ≤ s.length ∧
      openBehind b (readHyphens f (s.length + 1) {} s) = (negated, u, r) := by
  have hspares := spares_readHyphens (f := f) (n := (s ++ [')']).length + 1) (m := s.length + 1)
    (u := {}) (s := s) (by simp) (by simp)
  generalize readHyphens f ((s ++ [')']).length + 1) {} (s ++ [')']) = a at h hspares
  obtain ⟨v, t⟩ := a
  have ht : t ≠ [] := by
    rintro rfl
    rw [openBehind_plain (by simp)] at h
    cases h
    exact hrest rfl
  obtain ⟨r, rfl, hle, hbare⟩ := hspares v t rfl ht
  rw [Option.some.inj hbare]
  by_cases hbracket : v.count = 0 ∧ ∃ r', r = ']' :: r'
  · obtain ⟨hcount, r, rfl⟩ := hbracket
    rw [List.cons_append, openBehind_bracket hcount] at h
    rw [openBehind_bracket hcount]
    cases h
    exact ⟨r, rfl, Nat.le_of_succ_le hle, rfl⟩
  · have hplain (r' : List Char) (hcount : v.count = 0) : r ≠ ']' :: r' :=
      fun h => hbracket ⟨hcount, r', h⟩
    have hclosed (r' : List Char) (hcount : v.count = 0) : r ++ [')'] ≠ ']' :: r' :=
      concat_ne_cons (by decide) (fun u => hplain u hcount) r'
    rw [openBehind_plain hclosed] at h
    rw [openBehind_plain hplain]
    cases h
    exact ⟨r, rfl, hle, rfl⟩

/-- A class opens alike. -/
theorem openClass_concat {s rest : List Char} {negated : Bool} {u : ClassUnion}
    (h : openClass f (s ++ [')']) = (negated, u, rest)) (hrest : rest ≠ []) :
    ∃ r, rest = r ++ [')'] ∧ r.length ≤ s.length ∧ openClass f s = (negated, u, r) := by
  have hskip := f.skipsTo s
  generalize ht : f.skip (s ++ [')']) = t, hu : f.skip s = r at hskip
  cases hskip with
  | @cons c r hr =>
    by_cases hc : c = '^'
    · subst hc
      rw [openClass_caret ht] at h
      rw [openClass_caret hu]
      obtain ⟨r', hr', hle, hbare⟩ := openBehind_concat h hrest
      exact ⟨r', hr', by omega, hbare⟩
    · rw [openClass_plain (by simp [ht, hc]), ht] at h
      rw [openClass_plain (by simp [hu, hc]), hu]
      obtain ⟨r', hr', hle, hbare⟩ := openBehind_concat (s := c :: r) h hrest
      exact ⟨r', hr', Nat.le_trans hle hr, hbare⟩
  | parenthesis =>
    rw [openClass_plain (by simp [ht]), ht] at h
    rw [openClass_plain (by simp [hu]), hu]
    obtain ⟨r', hr', hle, hbare⟩ := openBehind_concat (s := []) h hrest
    exact ⟨r', hr', Nat.le_trans hle (Nat.zero_le _), hbare⟩
  | hidden =>
    rw [openClass_plain (by simp [ht]), ht, readHyphens_nil] at h
    cases h
    exact absurd rfl hrest

/-- One more class open, behind its bracket. -/
def openInner (f : Flags) (st : ClassState) (s : List Char) :
    Option ((ClassState ⊕ ClassItem) × List Char) :=
  some (.inl ⟨.bracket st.items (openClass f s).1 :: st.stack, (openClass f s).2.1⟩,
    (openClass f s).2.2)

theorem classStep_bracket {st : ClassState} {s : List Char} :
    classStep f st ('[' :: s) =
      match if st.stack.isEmpty then none else readAsciiClass f ('[' :: s) with
      | some (set, rest) =>
        (allowSet? f set).map fun set =>
          (.inl { st with items := st.items.push ⟨set, 0⟩ }, rest)
      | none => openInner f st s := rfl

/-- What a closing bracket makes of a class does not depend on what stands behind it. -/
def closeClass (f : Flags) (st : ClassState) : Option (ClassState ⊕ ClassItem) :=
  (classStep f st [']']).map Prod.fst

theorem classStep_close (st : ClassState) (s : List Char) :
    classStep f st (']' :: s) = (closeClass f st).map (·, s) := by
  unfold closeClass classStep
  simp only
  split
  · split <;> rfl
  · rfl

theorem classStep_range {st : ClassState} {c : Char} {s : List Char}
    (hopen : c ≠ '[') (hclose : c ≠ ']')
    (hop : ∀ u, s = c :: u → c ≠ '&' ∧ c ≠ '-' ∧ c ≠ '~') :
    classStep f st (c :: s) =
      (readClassRange f (c :: s)).map fun a =>
        (.inl { st with items := st.items.push ⟨a.1, 0⟩ }, a.2) := by
  unfold classStep
  split
  · rename_i heq
    cases heq
    exact absurd rfl hopen
  · rename_i heq
    cases heq
    exact absurd rfl hclose
  · rename_i heq
    cases heq
    exact absurd rfl (hop _ rfl).1
  · rename_i heq
    cases heq
    exact absurd rfl (hop _ rfl).2.1
  · rename_i heq
    cases heq
    exact absurd rfl (hop _ rfl).2.2
  · rfl

theorem spares_openInner (st : ClassState) (s : List Char) :
    Spares s.length (openInner f st (s ++ [')'])) (openInner f st s) := by
  intro x rest h hrest
  unfold openInner at h ⊢
  obtain ⟨⟨negated, u, t⟩, hopen⟩ : ∃ a, openClass f (s ++ [')']) = a := ⟨_, rfl⟩
  rw [hopen] at h
  cases h
  obtain ⟨r, rfl, hle, hbare⟩ := openClass_concat hopen hrest
  exact ⟨r, rfl, hle, by rw [hbare]⟩

/-- A bracket opens one more class, or a named one that is read as a whole. -/
theorem spares_classStep_bracket (st : ClassState) (s : List Char) :
    Spares s.length (classStep f st ('[' :: (s ++ [')']))) (classStep f st ('[' :: s)) := by
  rw [classStep_bracket, classStep_bracket]
  by_cases hstack : st.stack.isEmpty = true
  · rw [if_pos hstack, if_pos hstack]
    exact spares_openInner st s
  · have hascii := readAsciiClass_concat (f := f) ('[' :: s)
    rw [List.cons_append] at hascii
    rw [if_neg hstack, if_neg hstack, hascii]
    cases hbare : readAsciiClass f ('[' :: s) with
    | none => exact spares_openInner st s
    | some a => exact .keeps _ _ (length_readAsciiClass_le hbare)

/-- A step in a class is taken alike, unless the class is still open in front of the parenthesis. -/
theorem classStep_concat {c : Char} {s : List Char} {st : ClassState} {x : ClassState ⊕ ClassItem}
    {rest : List Char} (h : classStep f st (c :: (s ++ [')'])) = some (x, rest)) (hrest : rest ≠ [])
    (hparenthesis : rest = [')'] → x.isRight = true) :
    ∃ r, rest = r ++ [')'] ∧ r.length ≤ s.length ∧ classStep f st (c :: s) = some (x, r) := by
  by_cases hopen : c = '['
  · subst hopen
    exact spares_classStep_bracket st s x rest h hrest
  by_cases hclose : c = ']'
  · subst hclose
    rw [classStep_close] at h ⊢
    exact Spares.keeps _ _ (Nat.le_refl _) x rest h hrest
  by_cases hop : ∃ u, s = c :: u ∧ (c = '&' ∨ c = '-' ∨ c = '~')
  · obtain ⟨u, rfl, rfl | rfl | rfl⟩ := hop
    · cases h
      exact ⟨u, rfl, Nat.le_succ _, rfl⟩
    · cases h
      exact ⟨u, rfl, Nat.le_succ _, rfl⟩
    · cases h
      exact ⟨u, rfl, Nat.le_succ _, rfl⟩
  · have hrange (u : List Char) (hu : s = c :: u) : c ≠ '&' ∧ c ≠ '-' ∧ c ≠ '~' :=
      ⟨fun h => hop ⟨u, hu, .inl h⟩, fun h => hop ⟨u, hu, .inr (.inl h)⟩,
        fun h => hop ⟨u, hu, .inr (.inr h)⟩⟩
    have hrange' (u : List Char) (hu : s ++ [')'] = c :: u) : c ≠ '&' ∧ c ≠ '-' ∧ c ≠ '~' := by
      by_cases hc : c = ')'
      · subst hc
        decide
      · by_cases hs : ∃ u, s = c :: u
        · exact hrange hs.choose hs.choose_spec
        · exact absurd hu (concat_ne_cons hc (fun u h => hs ⟨u, h⟩) u)
    rw [classStep_range hopen hclose hrange'] at h
    rw [classStep_range hopen hclose hrange]
    obtain ⟨⟨set, rest⟩, hset, hr⟩ := Option.map_eq_some_iff.1 h
    cases hr
    obtain ⟨r, rfl, hle, hbare⟩ := readClassRange_concat hset hrest fun h => by
      have := hparenthesis h
      cases this
    exact ⟨r, rfl, hle, by rw [hbare]; rfl⟩

theorem classStep_nil (st : ClassState) : classStep f st [] = none := rfl

theorem classStep_parenthesis (st : ClassState) : classStep f st [')'] = none := by
  have hprimitive : readClassPrimitive f [')'] = some (.literal ')', []) := by
    rw [readClassPrimitive_of_ne (by decide)]
    simp
  have hrange (u : List Char) (h : [] = ')' :: u) : ')' ≠ '&' ∧ ')' ≠ '-' ∧ ')' ≠ '~' := by
    decide
  rw [classStep_range (by decide) (by decide) hrange, readClassRange_nil hprimitive f.skip_nil]
  rfl

/-- No class is closed by the parenthesis. -/
theorem readClassFrom_parenthesis (n : Nat) (st : ClassState) :
    readClassFrom f n st [')'] = none := by
  cases n with
  | zero => rfl
  | succ n =>
    unfold readClassFrom
    rw [f.skip_parenthesis, classStep_parenthesis]

theorem readClassFrom_nil (n : Nat) (st : ClassState) : readClassFrom f n st [] = none := by
  cases n with
  | zero => rfl
  | succ n =>
    unfold readClassFrom
    rw [f.skip_nil, classStep_nil]

/-- A class is read alike. -/
theorem spares_readClassFrom {n m : Nat} {st : ClassState} {s : List Char} (hm : s.length < m) :
    Spares (s.length - 1) (readClassFrom f n st (s ++ [')'])) (readClassFrom f m st s) := by
  induction n generalizing st s m with
  | zero => exact .fails
  | succ n ih =>
    obtain ⟨m, rfl⟩ : ∃ k, m = k + 1 := ⟨m - 1, by omega⟩
    intro item rest h hrest
    unfold readClassFrom at h ⊢
    have hskip := f.skipsTo s
    generalize f.skip (s ++ [')']) = t, f.skip s = u at hskip h ⊢
    cases hskip with
    | @cons c u hu =>
      split at h
      · cases h
      · rename_i item' rest' hstep
        cases h
        obtain ⟨r, rfl, hle, hbare⟩ := classStep_concat hstep hrest fun _ => rfl
        exact ⟨r, rfl, by omega, by rw [hbare]⟩
      · rename_i st' rest' hstep
        have hne : rest' ≠ [] := by
          rintro rfl
          rw [readClassFrom_nil] at h
          cases h
        have hparenthesis : rest' ≠ [')'] := by
          rintro rfl
          rw [readClassFrom_parenthesis] at h
          cases h
        obtain ⟨r, rfl, hle, hbare⟩ :=
          classStep_concat hstep hne fun h => absurd h hparenthesis
        obtain ⟨r', rfl, hle', hbare'⟩ := ih (m := m) (by omega) item rest h hrest
        exact ⟨r', rfl, by omega, by rw [hbare]; exact hbare'⟩
    | parenthesis =>
      rw [classStep_parenthesis] at h
      cases h
    | hidden => cases h

theorem spares_readClass (s : List Char) :
    Spares s.length (readClass f ('[' :: (s ++ [')']))) (readClass f ('[' :: s)) :=
  spares_readClassFrom (s := '[' :: s) (Nat.lt_succ_self _)

end TopDown.Pattern
