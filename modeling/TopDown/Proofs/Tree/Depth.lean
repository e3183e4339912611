import TopDown.Proofs.Machine.Lockstep
import TopDown.Proofs.Machine.Offsets
import TopDown.Proofs.Tree.Derivation

/-!
# Trees under a bound and verdicts

Without a bound on the depth, a tree builder comes to the verdict of a validator. A bound stops it
early if and only if the tree would have a node below the bound, the root apart: a node without
children is put on its level by its parent, and needs no level below its own.

* `Tree.Exceeds`, `Tree.exceeds_node` : a tree that has nodes below the bound, by its children;
* `TreeBuilder.outgrows_iff_anyExceeds` : a run that accepts outgrows the bound if and only if one
  of its trees exceeds it;
* `drive_validation` : a validator comes to the verdict of the tree builder without a bound;
* `parseTree_of_accepted`, `parseTree_of_rejected` : the tree or the error under all bounds;
* `parseTree_agrees_validate` : a parser and a validator agree up to the bound.
-/

namespace TopDown

namespace Tree

variable {α : Type} {d level : Nat} {label : α} {children : List (Tree α)}

/-- Some node of the tree other than its root lies below level `d`. The root stands on `level`. -/
def Exceeds (d level : Nat) (t : Tree α) : Prop := 1 < t.depth ∧ d + 1 < level + t.depth

theorem not_exceeds_leaf : ¬ Exceeds d level (node label []) := by
  intro h
  obtain ⟨t, ht, -⟩ := succ_lt_depth_node.1 h.1
  cases ht

theorem exceeds_node (h : children ≠ []) :
    Exceeds d level (node label children) ↔
      d ≤ level ∨ ∃ t ∈ children, Exceeds d (level + 1) t := by
  have hdeep : 1 < (node label children).depth := by
    obtain ⟨t, ht⟩ := List.exists_mem_of_ne_nil children h
    exact succ_lt_depth_node.2 ⟨t, ht, depth_pos t⟩
  constructor
  · rintro ⟨-, hexceeds⟩
    by_cases hd : d ≤ level
    · exact .inl hd
    · have hbelow : (d - level) + 1 < (node label children).depth := by omega
      obtain ⟨t, ht, hlt⟩ := succ_lt_depth_node.1 hbelow
      exact .inr ⟨t, ht, by omega, by omega⟩
  · rintro (hd | ⟨t, ht, hone, hexceeds⟩)
    · exact ⟨hdeep, by omega⟩
    · have hlt : d - level < t.depth := by omega
      have hbelow : d - level + 1 < (node label children).depth :=
        succ_lt_depth_node.2 ⟨t, ht, hlt⟩
      exact ⟨hdeep, by omega⟩

end Tree

open Grammar Machine

/-! ## Bounds that a run outgrows -/

namespace TreeBuilder

variable {g : Grammar} {d : Nat} {slots slots' : List Slot} {f f' : List ParseTree}

/-- One of the trees exceeds `d`, when their roots stand on the levels of the slots. -/
def AnyExceeds (d : Nat) : List Slot → List ParseTree → Prop
  | slot :: slots, t :: f => t.Exceeds d slot.level ∨ AnyExceeds d slots f
  | _, _ => False

theorem anyExceeds_append (h : slots.length = f.length) :
    AnyExceeds d (slots ++ slots') (f ++ f') ↔ AnyExceeds d slots f ∨ AnyExceeds d slots' f' := by
  induction slots generalizing f with
  | nil =>
    cases f with
    | nil => simp [AnyExceeds]
    | cons => cases h
  | cons slot slots ih =>
    cases f with
    | nil => cases h
    | cons t f => simp only [List.cons_append, AnyExceeds, ih (Nat.succ.inj h), or_assoc]

theorem anyExceeds_of_level {level : Nat} (h : slots.length = f.length)
    (hlevel : ∀ slot ∈ slots, slot.level = level) :
    AnyExceeds d slots f ↔ ∃ t ∈ f, t.Exceeds d level := by
  induction slots generalizing f with
  | nil =>
    cases f with
    | nil => simp [AnyExceeds]
    | cons => cases h
  | cons slot slots ih =>
    cases f with
    | nil => cases h
    | cons t f =>
      obtain ⟨hslot, hslots⟩ := List.forall_mem_cons.1 hlevel
      rw [AnyExceeds, ih (Nat.succ.inj h) hslots, hslot, List.exists_mem_cons_iff]

/-- An expansion overgrows the bound if its node is deep enough and its body is not empty. -/
theorem overgrows_expand {t : Table} {b id : Nat} {leaf : Slot} {below : List StackEntry}
    {under : List (Option Slot)} {l : Lexeme} {rest : List Pull}
    {a : Arena ParseNode} {x : Lookahead} (hx : lookahead? g l = some x)
    (hid : t.predict b x = some id) :
    Overgrows g t d ⟨.symbol (.nonterminal b) :: below, some leaf :: under, l, rest, a⟩ ↔
      (g.productions.getD id ⟨g.start, []⟩).isEpsilon = false ∧ d ≤ leaf.level := by
  constructor
  · intro h
    cases h with
    | intro hx' hid' hp hlevel =>
      cases hx.symm.trans hx'
      cases hid.symm.trans hid'
      exact ⟨hp, hlevel⟩
  · rintro ⟨hp, hlevel⟩
    exact .intro hx hid hp hlevel

/-- A node exceeds the bound if it is expanded at the bound or one of its children exceeds it. -/
theorem anyExceeds_grow {p : Production} (hp : p.body = [.empty] ∨ p.body ≠ [] ∧ .empty ∉ p.body)
    {leaf : Slot} {parent : Nat} {a a' : Arena ParseNode} {children : List (Option Slot)}
    (hgrows : Grows g parent (leaf.level + 1) p.body a children a') {trees : List ParseTree}
    (hlength : trees.length = children.reduceOption.length) (label : ParseNode) :
    (p.isEpsilon = false ∧ d ≤ leaf.level) ∨
        AnyExceeds d (children.reduceOption ++ slots) (trees ++ f) ↔
      AnyExceeds d (leaf :: slots) (.node label trees :: f) := by
  have hlevel : ∀ slot ∈ children.reduceOption, slot.level = leaf.level + 1 := fun slot hslot =>
    hgrows.level_eq (List.reduceOption_mem_iff.1 hslot)
  rw [anyExceeds_append hlength.symm, anyExceeds_of_level hlength.symm hlevel, AnyExceeds,
    ← or_assoc]
  apply or_congr_left
  rw [hgrows.length_eq] at hlength
  rcases hp with hempty | ⟨hne, hfull⟩
  · rw [hempty] at hlength
    obtain rfl := List.length_eq_zero_iff.1 hlength
    refine iff_of_false ?_ Tree.not_exceeds_leaf
    simp [Production.isEpsilon, hempty]
  · have hepsilon : p.isEpsilon = false := by
      refine decide_eq_false fun hempty => hfull ?_
      rw [hempty]
      exact List.mem_cons_self
    have htrees : trees ≠ [] := by
      rintro rfl
      rw [bare_of_not_mem hfull] at hlength
      exact hne (List.length_eq_zero_iff.1 hlength.symm)
    rw [Tree.exceeds_node htrees, hepsilon]
    simp

/-- From the end of a run that accepts: it outgrows the bound if and only if one of the trees of its
stack exceeds it. -/
theorem outgrows_iff_anyExceeds (hg : g.Normal) {n : Nat}
    {c : Config (Arena ParseNode) (Option Slot)} {a : Arena ParseNode} {s : List Symbol}
    (h : Growing g c s slots) (hrun : run g g.table (boundless g) n c = .accepted a)
    (hf : a.Unfolds (slots.map Slot.number) f) :
    Outgrows g g.table d n c ↔ AnyExceeds d slots f := by
  induction n generalizing c s slots f with
  | zero => cases hrun
  | succ n ih =>
    rcases moves_or_ends h.paired with ⟨c', heffect⟩ | ⟨outcome, hfinal, heffect⟩
    · rw [run_succ_of_move heffect] at hrun
      rw [outgrows_succ heffect]
      cases heffect with
      | epsilon =>
        obtain ⟨s, rfl, hbelow⟩ := h.of_empty
        rw [← ih hbelow hrun hf]
        exact or_iff_right (by rintro ⟨⟩)
      | @shift id slot below under token rest a₀ l' rest' _ _ =>
        obtain ⟨leaf, s, slots, rfl, rfl, rfl⟩ := h.of_symbol (by rintro ⟨⟩)
        obtain ⟨f, rfl, hbelow⟩ := h.unfolds_fill hrun hf
        rw [AnyExceeds, ← ih (h.fill token) hrun hbelow]
        exact or_congr_left (iff_of_false (by rintro ⟨⟩) Tree.not_exceeds_leaf)
      | @expand b slot below under l rest a₀ x id children a₁ hx hid hchildren =>
        obtain ⟨leaf, s, slots, rfl, rfl, rfl⟩ := h.of_symbol (by rintro ⟨⟩)
        obtain ⟨hp, rfl⟩ := production_of_predict hid
        cases hchildren
        have hgrows := grows_grow g leaf.number (leaf.level + 1)
          (g.productions.getD id ⟨g.start, []⟩).body a₀
        obtain ⟨trees, f, rfl, htrees, hbelow⟩ := h.unfolds_grow hgrows hrun hf
        have hlength := htrees.length_eq
        rw [List.length_map] at hlength
        have hlater := ih (f := trees ++ f) (h.grow hgrows) hrun
          (by rw [List.map_append]; exact htrees.append hbelow)
        exact (or_congr (overgrows_expand hx hid) hlater).trans
          (anyExceeds_grow (hg _ (List.mem_of_getElem? hp)) hgrows hlength _)
    · rw [run_succ_of_end hfinal heffect] at hrun
      subst hrun
      have hplanted := h.planted
      cases heffect with
      | exhausted => cases hplanted
      | accept =>
        cases hplanted
        cases hf
        refine iff_of_false ?_ id
        intro houtgrows
        cases houtgrows with
        | here hnow => cases hnow
        | later hmove => cases hmove

end TreeBuilder

/-! ## Whole inputs -/

open TreeBuilder

section Parse

variable {g : Grammar} {t : Table} {tokenizer : Tokenizer} {input : String}

theorem parseTree_of_error {e : LexError}
    (h : advance (tokenizer.scan input).lexemes = .error e) (maxDepth : Nat) :
    parseTree g t tokenizer maxDepth input = .error (.lexical e) := by
  simp only [parseTree, drive, h]

/-- A validator comes to the verdict of the tree builder without a bound. -/
theorem drive_validation (stream : List Pull) :
    (drive g t (Validation.recorder g) stream #[]).1 = (drive g t (boundless g) stream #[]).1 :=
  drive_alike (Validation.fillsBodies g) (Validation.agrees g) (boundless_fillsBodies g)
    (boundless_agrees g) stream #[] #[]

theorem validate_of_error {e : ParseError}
    (h : (drive g t (boundless g) (tokenizer.scan input).lexemes #[]).1 = .error e) :
    (validate g t tokenizer input).accepted = false ∧
      (validate g t tokenizer input).error = some e := by
  rw [← drive_validation] at h
  unfold validate
  split
  · rename_i hdrive
    rw [hdrive] at h
    cases h
  · rename_i hdrive
    rw [hdrive] at h
    cases h
    exact ⟨rfl, rfl⟩

variable {l : Lexeme} {rest : List Pull}
  (hnext : advance (tokenizer.scan input).lexemes = .ok (l, rest))

include hnext

/-- The tree of an input is returned under every bound that it does not exceed. -/
theorem parseTree_of_accepted (hg : g.Normal) {a : Arena ParseNode}
    (hrun : run g g.table (boundless g) (movesOn g tokenizer input)
      (start g (boundless g) l rest #[]) = .accepted a) :
    ∃ tree : ParseTree, ∀ d,
      (tree.depth ≤ max d 1 → parseTree g g.table tokenizer d input = .ok tree) ∧
      (max d 1 < tree.depth →
        ∃ offset, parseTree g g.table tokenizer d input = .error (.tooDeep offset d)) := by
  obtain ⟨tree, htree, hunfolds⟩ := exists_tree_of_accepted hrun
  refine ⟨tree, fun d => ?_⟩
  have houtgrows := outgrows_iff_anyExceeds (d := d) hg (growing_start g l rest) hrun hunfolds
  simp only [AnyExceeds, or_false, Tree.Exceeds] at houtgrows
  constructor
  · intro hdepth
    rw [parseTree_of_not_outgrows hnext (by rw [houtgrows]; omega), hrun, treeOf, htree]
    rfl
  · intro hdepth
    obtain ⟨k, c, -, -, herror⟩ := parseTree_of_outgrows hnext (houtgrows.2 (by omega))
    exact ⟨_, herror⟩

/-- An error that a run comes to without a bound is returned under every bound that the run does not
outgrow before. -/
theorem parseTree_of_rejected {stack : List StackEntry} {slots : List (Option Slot)}
    {e : ParseError} {a : Arena ParseNode}
    (hrun : run g t (boundless g) (movesOn g tokenizer input) (start g (boundless g) l rest #[]) =
      .rejected stack slots e a) :
    (∀ d, parseTree g t tokenizer d input = .error e ∨
      ∃ offset ≤ e.offset, parseTree g t tokenizer d input = .error (.tooDeep offset d)) ∧
    ∀ d d', d ≤ d' → parseTree g t tokenizer d input = .error e →
      parseTree g t tokenizer d' input = .error e := by
  obtain ⟨tokens, last, hscan⟩ := Tokenizer.exists_reads tokenizer 0 input.toList
  have hlexemes : (tokenizer.scan input).lexemes = Token.pulls tokens ++ [last] := hscan.lexemes
  have hstart : Ascends (start g (boundless g) l rest #[]).lookahead
      (start g (boundless g) l rest #[]).rest := (ascends_of_reads hscan (hlexemes ▸ hnext)).2
  have hreturned : ∀ d, ¬ Outgrows g t d (movesOn g tokenizer input)
      (start g (boundless g) l rest #[]) → parseTree g t tokenizer d input = .error e := by
    intro d hd
    rw [parseTree_of_not_outgrows hnext hd, hrun]
    rfl
  constructor
  · intro d
    by_cases hd : Outgrows g t d (movesOn g tokenizer input) (start g (boundless g) l rest #[])
    · obtain ⟨k, c, hk, hrunning, herror⟩ := parseTree_of_outgrows hnext hd
      obtain ⟨m, hm⟩ := Nat.exists_eq_add_of_lt hk
      rw [hm, Nat.add_assoc, run_add hrunning] at hrun
      have hpaired : c.Paired := paired_run (paired_start ..) hrunning
      have hlater : Ascends c.lookahead c.rest := hstart.run (paired_start ..) hrunning
      exact .inr ⟨_, (offset_le_of_rejected (boundless_agrees g) hpaired hlater hrun).1, herror⟩
    · exact .inl (hreturned d hd)
  · intro d d' hle hd
    refine hreturned d' fun houtgrows => ?_
    obtain ⟨k, c, -, -, herror⟩ := parseTree_of_outgrows hnext (houtgrows.mono hle)
    rw [hd] at herror
    exact (offset_le_of_rejected (boundless_agrees g) (paired_start ..) hstart hrun).2 _ _
      (Except.error.inj herror)

end Parse

/-- A parser and a validator agree up to the bound on the depth. An accepted input has one tree,
which is returned under every bound that leaves room for it; a bound of zero is as good as one. The
error of a rejected input is returned as it is, unless the tree gets too deep before. -/
theorem parseTree_agrees_validate {ds : Declarations} {lexicon : Lexicon} {options : Options}
    {g : Grammar} (hds : ds.names.Nodup) (hg : resolve ds lexicon options = .ok g)
    (tokenizer : Tokenizer) (input : String) :
    ((validate g g.table tokenizer input).accepted = true →
      ∃ tree : ParseTree, ∀ d,
        (tree.depth ≤ max d 1 → parseTree g g.table tokenizer d input = .ok tree) ∧
        (max d 1 < tree.depth →
          ∃ offset, parseTree g g.table tokenizer d input = .error (.tooDeep offset d))) ∧
    ((validate g g.table tokenizer input).accepted = false →
      ∃ e, (validate g g.table tokenizer input).error = some e ∧
        (∀ d, parseTree g g.table tokenizer d input = .error e ∨
          ∃ offset ≤ e.offset,
            parseTree g g.table tokenizer d input = .error (.tooDeep offset d)) ∧
        ∀ d d', d ≤ d' → parseTree g g.table tokenizer d input = .error e →
          parseTree g g.table tokenizer d' input = .error e) := by
  cases hnext : advance (tokenizer.scan input).lexemes with
  | error e =>
    obtain ⟨hrejected, herror⟩ := validate_of_error (drive_of_error (g := g) (t := g.table) hnext)
    refine ⟨fun haccepted => ?_, fun _ => ⟨_, herror, fun d => .inl ?_, fun _ d' _ _ => ?_⟩⟩
    · cases haccepted.symm.trans hrejected
    · exact parseTree_of_error hnext d
    · exact parseTree_of_error hnext d'
  | ok next =>
    obtain ⟨l, rest⟩ := next
    have hdrive := drive_of_advance (g := g) (t := g.table) (r := boundless g) (s := #[]) hnext
    have hfinal := run_halts (WellFormed.of_resolve hds hg) (boundless_fillsBodies g) hnext #[]
      (Nat.le_succ _)
    cases hrun : run g g.table (boundless g) (movesOn g tokenizer input)
        (start g (boundless g) l rest #[]) with
    | running c =>
      rw [← movesOn, hrun] at hfinal
      cases hfinal
    | accepted a =>
      have haccepted : (validate g g.table tokenizer input).accepted = true := by
        rw [validate_accepted, drive_validation, hdrive, ← movesOn, hrun]
        rfl
      refine ⟨fun _ => parseTree_of_accepted hnext (Normal.of_resolve hg) hrun, fun hrejected => ?_⟩
      cases haccepted.symm.trans hrejected
    | rejected stack slots e a =>
      have hverdict : (drive g g.table (boundless g) (tokenizer.scan input).lexemes #[]).1 =
          .error e := by
        rw [hdrive, ← movesOn, hrun]
        rfl
      obtain ⟨hrejected, herror⟩ := validate_of_error hverdict
      refine ⟨fun haccepted => ?_, fun _ => ⟨e, herror, parseTree_of_rejected hnext hrun⟩⟩
      cases haccepted.symm.trans hrejected

theorem parseTree_agrees_validate_parens :
    (∃ tree : ParseTree, ∀ d,
      (tree.depth ≤ max d 1 →
        parseTree parens parens.table parensTokenizer d "(())" = .ok tree) ∧
      (max d 1 < tree.depth →
        ∃ offset, parseTree parens parens.table parensTokenizer d "(())" =
          .error (.tooDeep offset d))) ∧
    ∃ e, (validate parens parens.table parensTokenizer "(()").error = some e ∧
      ∀ d, parseTree parens parens.table parensTokenizer d "(()" = .error e ∨
        ∃ offset ≤ e.offset, parseTree parens parens.table parensTokenizer d "(()" =
          .error (.tooDeep offset d) := by
  have hagrees (input : String) :=
    parseTree_agrees_validate (by decide) resolve_parens parensTokenizer input
  refine ⟨(hagrees "(())").1 (by decide +kernel), ?_⟩
  obtain ⟨e, herror, hreturned, -⟩ := (hagrees "(()").2 (by decide +kernel)
  exact ⟨e, herror, hreturned⟩

end TopDown
