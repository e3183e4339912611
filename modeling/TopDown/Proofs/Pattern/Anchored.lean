import TopDown.Pattern.Search

/-!
# Programs that match at the start only

A program whose first instruction asks for the start of the text matches there what the rest of it
matches there, and nothing anywhere else.

* `unmarked`, `Program.follow_of_le` : more steps than a place can take change nothing;
* `Program.anchored` : a program behind a condition that holds at the start only;
  `Program.matchAt_anchored`, `Program.matchAt_anchored_of_before` : what it matches at the start,
  and that it matches nothing behind a character;
* `Program.ofExpr_sequence_start` : the program of the condition and an expression behind it;
* `Program.spanFrom` : where the match that a search finds begins and ends;
  `Program.spanFrom_anchored` : that of an anchored program begins at the start;
  `Program.findFrom_anchored` : so this program may be tried there only.
-/

namespace TopDown.Pattern

/-! ## Steps at one place -/

/-- How many instructions have not been seen at a place. -/
def unmarked (place : Nat) (marks : Array Nat) : Nat := marks.countP (· != place)

theorem unmarked_le_size (place : Nat) (marks : Array Nat) : unmarked place marks ≤ marks.size :=
  Array.countP_le_size

/-- An instruction that had not been seen is one less when it has. -/
theorem unmarked_mark {place i : Nat} {marks : Array Nat} (h : marks[i]?.getD place ≠ place) :
    unmarked place (marks.setIfInBounds i place) + 1 = unmarked place marks := by
  have hi : i < marks.size := by
    apply Nat.lt_of_not_le
    intro hout
    rw [Array.getElem?_eq_none hout] at h
    exact h rfl
  have hne : (marks.toList[i] != place) = true := by
    rw [Array.getElem?_eq_getElem hi] at h
    simpa using h
  have hpos : 0 < marks.toList.countP (· != place) :=
    List.countP_pos_iff.2 ⟨_, List.getElem_mem hi, hne⟩
  unfold unmarked
  rw [← Array.countP_toList, ← Array.countP_toList, Array.toList_setIfInBounds, List.countP_set hi,
    hne]
  simp only [if_true, bne_self_eq_false, Bool.false_eq_true, if_false]
  omega

/-- What is reached, with the mark of one more instruction. -/
def Reached.withMark (r : Reached) (mark : Nat) : Reached := { r with marks := r.marks.push mark }

theorem Reached.marks_withMark_size (r : Reached) (mark : Nat) :
    (r.withMark mark).marks[r.marks.size]? = some mark := by
  rw [withMark, Array.getElem?_push, if_pos rfl]

theorem Reached.marks_withMark_of_ne {r : Reached} {i : Nat} (h : i ≠ r.marks.size) (mark : Nat) :
    (r.withMark mark).marks[i]? = r.marks[i]? := by
  rw [withMark, Array.getElem?_push, if_neg h]

namespace Program

variable {p : Program} {before after : Option Char} {place : Nat}

theorem follow_nil (n : Nat) (r : Reached) : p.follow before after place n [] r = r := by
  cases n <;> rfl

/-- Steps beyond those that there are instructions for change nothing. A step takes an entry off the
stack, or it marks an instruction and puts at most two entries in place of one. -/
theorem follow_of_le {n m : Nat} {stack : List Nat} {r : Reached}
    (hn : stack.length + 2 * unmarked place r.marks ≤ n) (hm : n ≤ m) :
    p.follow before after place m stack r = p.follow before after place n stack r := by
  induction n generalizing m stack r with
  | zero =>
    have hstack : stack = [] := List.eq_nil_of_length_eq_zero (by omega)
    rw [hstack, follow_nil, follow_nil]
  | succ n ih =>
    obtain ⟨m, rfl⟩ : ∃ k, m = k + 1 := ⟨m - 1, by omega⟩
    cases stack with
    | nil => rw [follow_nil, follow_nil]
    | cons i stack =>
      rw [List.length_cons] at hn
      unfold follow
      by_cases hseen : r.marks[i]?.getD place = place
      · rw [if_pos hseen, if_pos hseen]
        exact ih (by omega) (by omega)
      · rw [if_neg hseen, if_neg hseen]
        have hmark := unmarked_mark hseen
        simp only
        split
        · exact ih (by simp only; omega) (by omega)
        · rfl
        · exact ih (by simp only; omega) (by omega)
        · split
          · exact ih (by simp only [List.length_cons]; omega) (by omega)
          · exact ih (by simp only; omega) (by omega)
        · exact ih (by simp only [List.length_cons]; omega) (by omega)

/-! ## A condition in front -/

/-- The program behind a condition that holds at the start of a text only. -/
def anchored (p : Program) : Program := ⟨p.code.push (.test .start p.entry), p.code.size, true⟩

theorem size_anchored (p : Program) : p.anchored.code.size = p.code.size + 1 := Array.size_push _

theorem code_anchored_size (p : Program) :
    p.anchored.code[p.code.size]? = some (.test .start p.entry) := by
  rw [anchored, Array.getElem?_push, if_pos rfl]

theorem code_anchored_of_ne {i : Nat} (h : i ≠ p.code.size) :
    p.anchored.code[i]? = p.code[i]? := by
  rw [anchored, Array.getElem?_push, if_neg h]

/-- The steps that are allowed at the place where the condition is tested. -/
theorem steps_anchored (p : Program) :
    [p.code.size].length + 2 * p.anchored.code.size = 2 * p.code.size + 2 + 1 := by
  rw [size_anchored, List.length_singleton]
  omega

/-- Marks of all instructions but the last are set alike. -/
theorem setIfInBounds_push {marks : Array Nat} {mark i place : Nat} (h : i < marks.size) :
    (marks.push mark).setIfInBounds i place = (marks.setIfInBounds i place).push mark := by
  rw [← Array.toList_inj]
  simp [Array.toList_setIfInBounds, List.set_append_left _ _ (by rwa [Array.length_toList])]

theorem setIfInBounds_push_size (marks : Array Nat) (mark place : Nat) :
    (marks.push mark).setIfInBounds marks.size place = marks.push place := by
  rw [← Array.toList_inj]
  simp [Array.toList_setIfInBounds, List.set_append_right]

/-- Where the condition cannot hold, or has been tested before, the rest of the program goes on as
if it stood alone. -/
theorem follow_anchored {n mark : Nat} {stack : List Nat} {r : Reached}
    (hsize : r.marks.size = p.code.size) (hmark : mark = place ∨ before ≠ none) :
    ∃ mark', p.anchored.follow before after place n stack (r.withMark mark) =
      (p.follow before after place n stack r).withMark mark' := by
  induction n generalizing stack r mark with
  | zero => exact ⟨mark, rfl⟩
  | succ n ih =>
    cases stack with
    | nil => exact ⟨mark, rfl⟩
    | cons i stack =>
      unfold follow
      rcases Nat.lt_trichotomy i r.marks.size with hi | rfl | hi
      · have hcode : p.anchored.code[i]? = p.code[i]? := code_anchored_of_ne (by omega)
        have hset : (r.withMark mark).marks.setIfInBounds i place =
            (r.marks.setIfInBounds i place).push mark := setIfInBounds_push hi
        rw [Reached.marks_withMark_of_ne (by omega)]
        split
        · exact ih hsize hmark
        · have hsize' (waiting : List (CharSet × Nat)) :
              (Reached.mk waiting r.accepted (r.marks.setIfInBounds i place)).marks.size =
                p.code.size := by
            rw [Array.size_setIfInBounds, hsize]
          simp only [hcode, hset]
          split
          · exact ih (hsize' _) hmark
          · exact ⟨mark, rfl⟩
          · exact ih (hsize' _) hmark
          · split
            · exact ih (hsize' _) hmark
            · exact ih (hsize' _) hmark
          · exact ih (hsize' _) hmark
      · -- The condition itself, which the rest of the program does not have.
        have hcode : p.anchored.code[r.marks.size]? = some (.test .start p.entry) :=
          hsize ▸ p.code_anchored_size
        have hset : (r.withMark mark).marks.setIfInBounds r.marks.size place =
            r.marks.push place := setIfInBounds_push_size ..
        rw [Reached.marks_withMark_size, Array.getElem?_eq_none (Nat.le_refl _), Option.getD_some,
          Option.getD_none, if_pos rfl]
        split
        · exact ih hsize hmark
        · rename_i hne
          obtain ⟨c, rfl⟩ := Option.ne_none_iff_exists'.1 (hmark.resolve_left hne)
          simp only [hcode, hset, Look.holds, Option.isNone_some, Bool.false_eq_true, if_false]
          exact ih hsize (.inl rfl)
      · have hout : r.marks[i]? = none := Array.getElem?_eq_none (by omega)
        rw [Reached.marks_withMark_of_ne (by omega), hout, Option.getD_none, if_pos rfl, if_pos rfl]
        exact ih hsize hmark

/-- Following instructions keeps the number of marks. -/
theorem size_follow {n : Nat} {stack : List Nat} {r : Reached} :
    (p.follow before after place n stack r).marks.size = r.marks.size := by
  induction n generalizing stack r with
  | zero => rfl
  | succ n ih =>
    cases stack with
    | nil => rfl
    | cons i stack =>
      unfold follow
      split
      · exact ih
      · simp only
        split
        · rw [ih, Array.size_setIfInBounds]
        · exact Array.size_setIfInBounds
        · rw [ih, Array.size_setIfInBounds]
        · split
          · rw [ih, Array.size_setIfInBounds]
          · rw [ih, Array.size_setIfInBounds]
        · rw [ih, Array.size_setIfInBounds]

/-- The steps that are allowed at a place are enough. -/
theorem reach_eq {live : List Nat} {marks : Array Nat} {n : Nat}
    (hsize : marks.size = p.code.size) (hn : live.length + 2 * p.code.size ≤ n) :
    p.follow before after (place + 1) n live ⟨[], false, marks⟩ =
      p.reach before after place live marks := by
  apply follow_of_le _ hn
  have := unmarked_le_size (place + 1) marks
  simp only
  omega

theorem size_reach {live : List Nat} {marks : Array Nat} :
    (p.reach before after place live marks).marks.size = marks.size := size_follow

/-- Behind a character an anchored program reaches what the program reaches without its anchor. -/
theorem reach_anchored {c : Char} {marks : Array Nat} (after : Option Char) (place : Nat)
    (live : List Nat) (mark : Nat) (hsize : marks.size = p.code.size) :
    ∃ mark', p.anchored.reach (some c) after place live (marks.push mark) =
      (p.reach (some c) after place live marks).withMark mark' := by
  have hsteps : live.length + 2 * p.code.size ≤ live.length + 2 * p.anchored.code.size := by
    rw [size_anchored]
    omega
  rw [← reach_eq hsize hsteps]
  exact follow_anchored (r := ⟨[], false, marks⟩) hsize (.inr nofun)

/-- Behind a character an anchored program goes on like the program without its anchor. -/
theorem advance_anchored {c : Char} {live : List Nat} {marks : Array Nat} {mark : Nat}
    {best : Option Nat} {rest : List Char} (hsize : marks.size = p.code.size) :
    p.anchored.advance (some c) place live (marks.push mark) best rest =
      p.advance (some c) place live marks best rest := by
  induction rest generalizing c place live marks mark best with
  | nil =>
    obtain ⟨mark', h⟩ := reach_anchored none place live mark hsize
    rw [advance, advance, h]
    rfl
  | cons d rest ih =>
    obtain ⟨mark', h⟩ := reach_anchored (some d) place live mark hsize
    rw [advance, advance, h]
    split
    · rfl
    · exact ih (size_reach.trans hsize)

/-- At the start of a text the condition holds, and the program is entered. -/
theorem reach_anchored_start (p : Program) (after : Option Char) :
    ∃ mark, p.anchored.reach none after 0 [p.code.size] (Array.replicate (p.code.size + 1) 0) =
      (p.reach none after 0 [p.entry] (Array.replicate p.code.size 0)).withMark mark := by
  have hsize : (Array.replicate p.code.size 0).size = p.code.size := Array.size_replicate
  have hmarks : Array.replicate (p.code.size + 1) 0 = (Array.replicate p.code.size 0).push 0 :=
    Array.replicate_succ
  have hseen : (Array.replicate (p.code.size + 1) 0)[p.code.size]? = some 0 := by
    rw [Array.getElem?_replicate, if_pos (Nat.lt_succ_self _)]
  have hset : (Array.replicate (p.code.size + 1) 0).setIfInBounds p.code.size 1 =
      (Array.replicate p.code.size 0).push 1 := by
    simpa [hmarks] using setIfInBounds_push_size (Array.replicate p.code.size 0) 0 1
  have hsteps : [p.entry].length + 2 * p.code.size ≤ 2 * p.code.size + 2 := by
    rw [List.length_singleton]
    omega
  rw [reach, steps_anchored, follow, hseen, if_neg (by simp)]
  simp only [code_anchored_size, hset, Look.holds, Option.isNone_none, if_true]
  rw [← reach_eq hsize hsteps]
  exact follow_anchored (r := ⟨[], false, Array.replicate p.code.size 0⟩) hsize (.inl rfl)

/-- At the start an anchored program matches what the program matches without its anchor. -/
theorem matchAt_anchored (p : Program) (text : List Char) :
    p.anchored.matchAt none 0 text = p.matchAt none 0 text := by
  have hmarks : Array.replicate p.anchored.code.size 0 = Array.replicate (p.code.size + 1) 0 := by
    rw [size_anchored]
  change p.anchored.advance none 0 [p.code.size] _ none text = _
  rw [matchAt, hmarks]
  cases text with
  | nil =>
    obtain ⟨mark, h⟩ := reach_anchored_start p none
    rw [advance, advance, h]
    rfl
  | cons c rest =>
    obtain ⟨mark, h⟩ := reach_anchored_start p (some c)
    rw [advance, advance, h]
    exact advance_anchored (size_reach.trans Array.size_replicate)

/-- Behind a character the condition leads nowhere. -/
theorem reach_anchored_of_before (p : Program) (c : Char) (after : Option Char) (place : Nat)
    (marks : Array Nat) :
    (p.anchored.reach (some c) after place [p.code.size] marks).waiting = [] ∧
      (p.anchored.reach (some c) after place [p.code.size] marks).accepted = false := by
  rw [reach, steps_anchored, follow]
  split
  · rw [follow_nil]
    exact ⟨rfl, rfl⟩
  · simp only [code_anchored_size, Look.holds, Option.isNone_some, Bool.false_eq_true, if_false,
      follow_nil, and_self]

/-- Without an instruction to go on with, no better match is found. -/
theorem advance_nil (marks : Array Nat) (best : Option Nat) (rest : List Char) :
    p.advance before place [] marks best rest = best := by
  cases rest with
  | nil =>
    rw [advance, reach, follow_nil]
    rfl
  | cons c rest => rfl

/-- Behind a character an anchored program matches nothing. -/
theorem matchAt_anchored_of_before (c : Char) (rest : List Char) :
    p.anchored.matchAt (some c) place rest = none := by
  change p.anchored.advance (some c) place [p.code.size] _ none rest = none
  cases rest with
  | nil =>
    rw [advance, (reach_anchored_of_before ..).2]
    rfl
  | cons d rest =>
    obtain ⟨hwaiting, haccepted⟩ := p.reach_anchored_of_before c (some d) place
      (Array.replicate p.anchored.code.size 0)
    have hlive : (p.anchored.reach (some c) (some d) place [p.code.size]
        (Array.replicate p.anchored.code.size 0)).after d = [] := by
      unfold Reached.after
      rw [hwaiting]
      rfl
    rw [advance]
    simp only [hlive, haccepted]
    exact advance_nil ..

/-! ## Searching -/

/-- Where the match that a search finds begins and ends. -/
def spanFrom (p : Program) (before : Option Char) (place : Nat) : List Char → Option (Nat × Nat)
  | [] => (p.matchAt before place []).map (place, ·)
  | c :: cs =>
    match p.matchAt before place (c :: cs) with
    | some stop => some (place, stop)
    | none => p.spanFrom (some c) (place + 1) cs

theorem findFrom_eq_spanFrom (p : Program) (before : Option Char) (place : Nat)
    (text : List Char) :
    p.findFrom before place text = (p.spanFrom before place text).map Prod.snd := by
  induction text generalizing before place with
  | nil =>
    rw [findFrom, spanFrom, Option.map_map]
    exact Option.map_id'.symm
  | cons c text ih =>
    rw [findFrom, spanFrom]
    cases p.matchAt before place (c :: text) with
    | some stop => rfl
    | none => exact ih ..

/-- Behind a character a search with an anchored program finds nothing. -/
theorem spanFrom_anchored_of_before (c : Char) (text : List Char) :
    p.anchored.spanFrom (some c) place text = none := by
  induction text generalizing c place with
  | nil => rw [spanFrom, matchAt_anchored_of_before, Option.map_none]
  | cons d text ih => rw [spanFrom, matchAt_anchored_of_before]; exact ih d

/-- A search with an anchored program finds what the program matches at the start, and nothing
else. -/
theorem spanFrom_anchored (p : Program) (text : List Char) :
    p.anchored.spanFrom none 0 text = (p.matchAt none 0 text).map (0, ·) := by
  cases text with
  | nil => rw [spanFrom, matchAt_anchored]
  | cons c text =>
    rw [spanFrom, matchAt_anchored]
    split
    · rename_i hstop
      rw [hstop]
      rfl
    · rename_i hnone
      rw [hnone]
      exact spanFrom_anchored_of_before c text

theorem find_anchored (p : Program) (text : List Char) :
    p.anchored.find text = p.matchAt none 0 text := by
  rw [find, anchored, if_pos rfl]
  exact matchAt_anchored p text

/-- That an anchored program is not tried at later places changes nothing. -/
theorem findFrom_anchored (p : Program) (text : List Char) :
    p.anchored.findFrom none 0 text = p.anchored.find text := by
  rw [findFrom_eq_spanFrom, spanFrom_anchored, find_anchored, Option.map_map]
  exact Option.map_id'

end Program

/-! ## Expressions -/

/-- Two literals that meet are read like one. -/
theorem compileLiteral_append (s t : List Char) (next : Nat) (code : Code) :
    compileLiteral (s ++ t) next code =
      compileLiteral s (compileLiteral t next code).1 (compileLiteral t next code).2 := by
  induction s with
  | nil => rfl
  | cons c s ih => rw [List.cons_append, compileLiteral, compileLiteral, ih]

namespace Expr

theorem compileSequence_glue (e : Expr) (es : List Expr) (next : Nat) (code : Code) :
    compileSequence (glue e es) next code = compileSequence (e :: es) next code := by
  unfold glue
  split
  · rename_i s t es
    simp only [compileSequence, compile, compileLiteral_append]
  · rfl

theorem compileSequence_foldr_glue (es : List Expr) (next : Nat) (code : Code) :
    compileSequence (es.foldr glue []) next code = compileSequence es next code := by
  induction es generalizing next code with
  | nil => rfl
  | cons e es ih => rw [List.foldr_cons, compileSequence_glue, compileSequence, compileSequence, ih]

theorem compileSequence_parts (e : Expr) (next : Nat) (code : Code) :
    compileSequence e.parts next code = e.compile next code := by
  unfold parts
  split
  · rfl
  · rw [compile]
  · rfl

/-- A condition in front of an expression is one part more. -/
theorem sequence_look (l : Look) (e : Expr) :
    sequence [look l, e] = look l ∧ e.parts.foldr glue [] = [] ∨
      sequence [look l, e] = cat (look l :: e.parts.foldr glue []) := by
  have hparts : ([look l, e].flatMap parts).foldr glue [] = look l :: e.parts.foldr glue [] := by
    simp [parts, glue]
  unfold sequence
  rw [hparts]
  cases e.parts.foldr glue [] with
  | nil => exact .inl ⟨rfl, rfl⟩
  | cons f fs => exact .inr rfl

end Expr

/-- The condition and an expression behind it have an anchored program. -/
theorem Program.ofExpr_sequence_start (e : Expr) :
    Program.ofExpr (.sequence [.look .start, e]) = (Program.ofExpr e).anchored := by
  have hcompile : (Expr.sequence [.look .start, e]).compile 0 #[.accept] =
      emitInstr (.test .start (e.compile 0 #[.accept]).1) (e.compile 0 #[.accept]).2 := by
    have hrest := Expr.compileSequence_foldr_glue e.parts 0 #[.accept]
    rw [Expr.compileSequence_parts] at hrest
    rcases Expr.sequence_look .start e with ⟨hsequence, hnil⟩ | hsequence
    · rw [hnil] at hrest
      rw [hsequence, ← hrest]
      rfl
    · rw [hsequence, ← hrest]
      rfl
  have hanchored : (Expr.sequence [.look .start, e]).startsAtStart = true := by
    rcases Expr.sequence_look .start e with ⟨hsequence, -⟩ | hsequence
    · rw [hsequence]
      rfl
    · rw [hsequence]
      rfl
  unfold Program.ofExpr
  rw [hcompile, hanchored]
  rfl

end TopDown.Pattern
