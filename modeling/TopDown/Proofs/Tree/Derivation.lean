import TopDown.Proofs.Tree.Capping
import TopDown.Proofs.Tree.Walks

/-!
# Parse trees are derivation trees

A run that accepts is read from its end: what a symbol of the stack derives is known once the run
has got past it, and so is the tree that its node unfolds to.

* `ParseForest` : parse trees side by side, one for every symbol of a sequence, over the tokens that
  they derive;
* `parseForest_of_accepted` : the trees of a stack derive the tokens up to the end;
* `Tree.Every`, `ParseNode.Fits` : what is asked of the nodes of a parse tree;
* `ParseForest.every`, `ParseForest.leaves` : the nodes of a forest and its texts;
* `parseTree_isDerivation` : the tree of an input is a derivation tree of its tokens.
-/

namespace TopDown

open Grammar Machine TreeBuilder

/-- The trees derive the tokens from the symbols, one tree for every symbol but the empty one. -/
inductive ParseForest (g : Grammar) : List Symbol → List ParseTree → List Token → Prop
  | nil : ParseForest g [] [] []
  | empty {s f w} : ParseForest g s f w → ParseForest g (.empty :: s) f w
  | terminal {id token s f w} : g.terminal? token.terminal = some id → ParseForest g s f w →
      ParseForest g (.terminal id :: s)
        (.node ⟨token.text, .terminal id, some token.text⟩ [] :: f) (token :: w)
  | nonterminal {p s children f u v} : p ∈ g.productions → ParseForest g p.body children u →
      ParseForest g s f v →
      ParseForest g (.nonterminal p.lhs :: s)
        (.node (.ofSymbol g (.nonterminal p.lhs)) children :: f) (u ++ v)

/-- A condition on every node of a tree, which may look at the node's children. -/
inductive Tree.Every {α : Type} (P : α → List (Tree α) → Prop) : Tree α → Prop
  | node {label children} : P label children → (∀ t ∈ children, Every P t) →
      Every P (.node label children)

/-- What the symbol of a node says of its name, its text and its children. A terminal is a leaf that
is named by its text. Below a nonterminal stands the body of one of its productions, and nothing
only for the body that is the empty symbol. -/
def ParseNode.Fits (g : Grammar) (n : ParseNode) (children : List ParseTree) : Prop :=
  match n.symbol with
  | .empty => False
  | .terminal _ => children = [] ∧ n.text = some n.name
  | .nonterminal a => n.name = g.nonterminalName a ∧ n.text = none ∧
      ∃ p ∈ g.productions, p.lhs = a ∧
        (p.body = [.empty] ∧ children = [] ∨
          p.body = children.map (·.label.symbol) ∧ children ≠ [])

/-- The terminal and the text of a node that has a text. -/
def ParseNode.leaf? (g : Grammar) (n : ParseNode) : Option (String × String) :=
  n.text.map (g.symbolName n.symbol, ·)

variable {g : Grammar} {s s₁ s₂ : List Symbol} {f : List ParseTree} {w : List Token}

/-! ## Forests -/

theorem ParseForest.split (h : ParseForest g (s₁ ++ s₂) f w) :
    ∃ f₁ f₂ u v, f = f₁ ++ f₂ ∧ w = u ++ v ∧ ParseForest g s₁ f₁ u ∧ ParseForest g s₂ f₂ v := by
  induction s₁ generalizing f w with
  | nil => exact ⟨[], f, [], w, rfl, rfl, .nil, h⟩
  | cons x s₁ ih =>
    cases h with
    | empty h =>
      obtain ⟨f₁, f₂, u, v, rfl, rfl, hu, hv⟩ := ih h
      exact ⟨f₁, f₂, u, v, rfl, rfl, .empty hu, hv⟩
    | terminal hid h =>
      obtain ⟨f₁, f₂, u, v, rfl, rfl, hu, hv⟩ := ih h
      exact ⟨_, f₂, _, v, rfl, rfl, .terminal hid hu, hv⟩
    | nonterminal hp hbody h =>
      obtain ⟨f₁, f₂, u, v, rfl, rfl, hu, hv⟩ := ih h
      exact ⟨_, f₂, _, v, rfl, (List.append_assoc ..).symm, .nonterminal hp hbody hu, hv⟩

theorem ParseForest.symbols (h : ParseForest g s f w) : f.map (·.label.symbol) = bare s := by
  induction h with
  | nil => rfl
  | empty _ ih => exact ih
  | terminal _ _ ih => rw [List.map_cons, ih, bare_terminal]; rfl
  | nonterminal _ _ _ _ ih => rw [List.map_cons, ih, bare_nonterminal]; rfl

theorem ParseForest.label_eq {x : Nat} {t : ParseTree}
    (h : ParseForest g (.nonterminal x :: s) (t :: f) w) :
    t.label = .ofSymbol g (.nonterminal x) := by
  cases h with
  | nonterminal => rfl

/-- The nodes of a forest fit, where the empty symbol stands alone in bodies. -/
theorem ParseForest.every (hg : g.Normal) (h : ParseForest g s f w) :
    ∀ t ∈ f, t.Every (ParseNode.Fits g) := by
  induction h with
  | nil => exact fun _ ht => absurd ht List.not_mem_nil
  | empty _ ih => exact ih
  | terminal _ _ ih =>
    refine List.forall_mem_cons.2 ⟨.node ⟨rfl, rfl⟩ fun _ ht => ?_, ih⟩
    cases ht
  | @nonterminal p s children f u v hp hbody _ ihbody ih =>
    refine List.forall_mem_cons.2 ⟨.node ⟨rfl, rfl, p, hp, rfl, ?_⟩ ihbody, ih⟩
    have hsymbols := hbody.symbols
    rcases hg p hp with hempty | ⟨hne, hfull⟩
    · rw [hempty] at hsymbols
      exact .inl ⟨hempty, List.map_eq_nil_iff.1 hsymbols⟩
    · rw [bare_of_not_mem hfull] at hsymbols
      refine .inr ⟨hsymbols.symm, fun hnil => hne ?_⟩
      rw [← hsymbols, hnil]
      rfl

theorem terminalName_of_terminal? {name : String} {id : Nat} (h : g.terminal? name = some id) :
    g.terminalName id = name := by
  obtain ⟨hid, hname, -⟩ := List.findIdx?_eq_some_iff_getElem.1 h
  rw [terminalName, List.getElem?_eq_getElem hid]
  exact eq_of_beq hname

/-- The texts of a forest are those of its tokens. -/
theorem ParseForest.leaves (h : ParseForest g s f w) :
    f.flatMap (Tree.collect (ParseNode.leaf? g)) =
      w.map fun token => (token.terminal, token.text) := by
  induction h with
  | nil => rfl
  | empty _ ih => exact ih
  | terminal hid _ ih =>
    rw [List.flatMap_cons, Tree.collect_node, ih, List.map_cons, ← terminalName_of_terminal? hid]
    rfl
  | nonterminal _ _ _ ihbody ih =>
    rw [List.flatMap_cons, Tree.collect_node, ihbody, ih, List.map_append]
    rfl

/-! ## From runs to forests -/

/-- From the end of a run that accepts: the trees of the stack derive the tokens that are still to
come. -/
theorem parseForest_of_accepted {n : Nat} {c : Config (Arena ParseNode) (Option Slot)}
    {a : Arena ParseNode} {slots : List Slot} (h : Growing g c s slots)
    (hrun : run g g.table (boundless g) n c = .accepted a)
    (hf : a.Unfolds (slots.map Slot.number) f) :
    ∃ w, ParseForest g s f w ∧ ∀ pending, advance pending = .ok (c.lookahead, c.rest) →
      ∃ after, Behind pending w after ∧ AtEnd after := by
  induction n generalizing c s slots f with
  | zero => cases hrun
  | succ n ih =>
    rcases moves_or_ends h.paired with ⟨c', heffect⟩ | ⟨outcome, hfinal, heffect⟩
    · rw [run_succ_of_move heffect] at hrun
      cases heffect with
      | epsilon =>
        obtain ⟨s, rfl, hbelow⟩ := h.of_empty
        obtain ⟨w, hforest, hreads⟩ := ih hbelow hrun hf
        exact ⟨w, .empty hforest, hreads⟩
      | @shift id slot below under token rest a₀ l' rest' hid hadvance =>
        obtain ⟨leaf, s, slots, rfl, rfl, rfl⟩ := h.of_symbol (by rintro ⟨⟩)
        obtain ⟨f, rfl, hbelow⟩ := h.unfolds_fill hrun hf
        obtain ⟨w, hforest, hreads⟩ := ih (h.fill token) hrun hbelow
        refine ⟨token :: w, .terminal hid hforest, fun pending hpending => ?_⟩
        obtain ⟨after, hbehind, hend⟩ := hreads rest hadvance
        refine ⟨after, ?_, hend⟩
        rw [Behind, advance_token hpending, hbehind]
        rfl
      | @expand b slot below under l rest a₀ x id children a₁ hx hid hchildren =>
        obtain ⟨leaf, s, slots, rfl, rfl, rfl⟩ := h.of_symbol (by rintro ⟨⟩)
        obtain ⟨hp, rfl⟩ := production_of_predict hid
        cases hchildren
        have hgrows := grows_grow g leaf.number (leaf.level + 1)
          (g.productions.getD id ⟨g.start, []⟩).body a₀
        obtain ⟨trees, f, rfl, htrees, hbelow⟩ := h.unfolds_grow hgrows hrun hf
        obtain ⟨w, hforest, hreads⟩ := ih (f := trees ++ f) (h.grow hgrows) hrun
          (by rw [List.map_append]; exact htrees.append hbelow)
        obtain ⟨f₁, f₂, u, v, hsplit, rfl, hbody, hrest⟩ := hforest.split
        -- both ways to cut the forest leave as many trees for the body
        have hlength : trees.length = f₁.length := by
          rw [htrees.length_eq, List.length_map, hgrows.length_eq, ← hbody.symbols, List.length_map]
        obtain ⟨rfl, rfl⟩ := List.append_inj hsplit hlength
        exact ⟨u ++ v, .nonterminal (List.mem_of_getElem? hp) hbody hrest, hreads⟩
    · rw [run_succ_of_end hfinal heffect] at hrun
      subst hrun
      have hplanted := h.planted
      cases heffect with
      | exhausted => cases hplanted
      | accept =>
        cases hplanted
        cases hf
        exact ⟨[], .nil, fun pending hpending => ⟨pending, rfl, atEnd_of_advance hpending⟩⟩

/-! ## Whole inputs -/

section Parse

variable {t : Table} {tokenizer : Tokenizer} {maxDepth : Nat} {input : String} {l : Lexeme}
  {rest : List Pull}

/-- The moves that are made on an input at most. -/
def movesOn (g : Grammar) (tokenizer : Tokenizer) (input : String) : Nat :=
  g.moveBound (tokenizer.scan input).lexemes.length

/-- The tree of a run, or its error. -/
def treeOf (g : Grammar) : Outcome (Arena ParseNode) (Option Slot) → Except ParseError ParseTree
  | .accepted a => .ok (a.assemble?.getD (.node (.ofSymbol g (.nonterminal g.start)) []))
  | .rejected _ _ e _ => .error e
  | .running c => .error (.unexpected c.lookahead.offset [] c.lookahead.describe)

theorem parseTree_eq (hnext : advance (tokenizer.scan input).lexemes = .ok (l, rest)) :
    parseTree g t tokenizer maxDepth input =
      treeOf g (run g t (recorder g maxDepth) (movesOn g tokenizer input)
        (start g (boundless g) l rest #[])) := by
  have hstart : start g (recorder g maxDepth) l rest #[] = start g (boundless g) l rest #[] := rfl
  rw [parseTree, drive_of_advance hnext, hstart, ← movesOn]
  cases run g t (recorder g maxDepth) (movesOn g tokenizer input)
    (start g (boundless g) l rest #[]) <;> rfl

theorem parseTree_of_not_outgrows (hnext : advance (tokenizer.scan input).lexemes = .ok (l, rest))
    (h : ¬ Outgrows g t maxDepth (movesOn g tokenizer input)
      (start g (boundless g) l rest #[])) :
    parseTree g t tokenizer maxDepth input =
      treeOf g (run g t (boundless g) (movesOn g tokenizer input)
        (start g (boundless g) l rest #[])) := by
  rw [parseTree_eq hnext, run_of_not_outgrows (paired_start ..) h]

theorem parseTree_of_outgrows (hnext : advance (tokenizer.scan input).lexemes = .ok (l, rest))
    (h : Outgrows g t maxDepth (movesOn g tokenizer input) (start g (boundless g) l rest #[])) :
    ∃ k c, k < movesOn g tokenizer input ∧
      run g t (boundless g) k (start g (boundless g) l rest #[]) = .running c ∧
      parseTree g t tokenizer maxDepth input = .error (.tooDeep c.lookahead.offset maxDepth) := by
  obtain ⟨k, c, below, under, hk, hrunning, hrejected⟩ := run_of_outgrows h
  exact ⟨k, c, hk, hrunning, by rw [parseTree_eq hnext, hrejected]; rfl⟩

/-- An input with a tree is accepted without a bound, and the tree is what the first node unfolds
to. -/
theorem accepted_of_parseTree {tree : ParseTree}
    (h : parseTree g t tokenizer maxDepth input = .ok tree) :
    ∃ l rest a, advance (tokenizer.scan input).lexemes = .ok (l, rest) ∧
      run g t (boundless g) (movesOn g tokenizer input) (start g (boundless g) l rest #[]) =
        .accepted a ∧
      a.Unfolds [0] [tree] := by
  cases hnext : advance (tokenizer.scan input).lexemes with
  | error e =>
    simp only [parseTree, drive, hnext] at h
    cases h
  | ok next =>
    obtain ⟨l, rest⟩ := next
    have hcapped : ¬ Outgrows g t maxDepth (movesOn g tokenizer input)
        (start g (boundless g) l rest #[]) := by
      intro houtgrows
      obtain ⟨k, c, -, -, herror⟩ := parseTree_of_outgrows hnext houtgrows
      cases h.symm.trans herror
    rw [parseTree_of_not_outgrows hnext hcapped] at h
    cases hrun : run g t (boundless g) (movesOn g tokenizer input)
        (start g (boundless g) l rest #[]) with
    | running c =>
      rw [hrun] at h
      cases h
    | rejected stack slots e a =>
      rw [hrun] at h
      cases h
    | accepted a =>
      obtain ⟨tree', htree, hunfolds⟩ := exists_tree_of_accepted hrun
      rw [hrun, treeOf, htree] at h
      cases h
      exact ⟨l, rest, a, rfl, hrun, hunfolds⟩

end Parse

/-- What a parser returns is a derivation tree of its input: the root bears the start symbol, every
node fits its symbol, and the texts from left to right are the tokens of the input. -/
theorem parseTree_isDerivation {ds : Declarations} {lexicon : Lexicon} {options : Options}
    {g : Grammar} (hg : resolve ds lexicon options = .ok g) {tokenizer : Tokenizer}
    {maxDepth : Nat} {input : String} {tree : ParseTree}
    (h : parseTree g g.table tokenizer maxDepth input = .ok tree) :
    tree.label.symbol = .nonterminal g.start ∧
      tree.label.name = g.nonterminalName g.start ∧
      tree.Every (ParseNode.Fits g) ∧
      ∃ tokens, tokenizer.tokenize input = .ok tokens ∧
        tree.collect (ParseNode.leaf? g) =
          tokens.map fun token => (token.terminal, token.text) := by
  obtain ⟨l, rest, a, hnext, hrun, hunfolds⟩ := accepted_of_parseTree h
  obtain ⟨w, hforest, hreads⟩ := parseForest_of_accepted (growing_start g l rest) hrun hunfolds
  obtain ⟨tokens, last, hscan⟩ := Tokenizer.exists_reads tokenizer 0 input.toList
  have hlexemes : (tokenizer.scan input).lexemes = Token.pulls tokens ++ [last] := hscan.lexemes
  obtain ⟨after, hbehind, hend⟩ := hreads _ hnext
  rw [hlexemes] at hbehind
  have hlast : ∀ token, last ≠ .ok (.token token) := by
    rintro token rfl
    rcases hscan.last_eq with ⟨n, hn⟩ | ⟨n, c, hn⟩ <;> cases hn
  obtain ⟨rfl, n, rfl⟩ := tokens_of_behind hlast hbehind hend
  have hroot := hforest.label_eq
  have hleaves := hforest.leaves
  rw [List.flatMap_singleton] at hleaves
  refine ⟨by rw [hroot]; rfl, by rw [hroot]; rfl,
    hforest.every (Normal.of_resolve hg) tree List.mem_cons_self, w, ?_, hleaves⟩
  rw [Tokenizer.tokenize, hlexemes, Tokenizer.collect_finish]

/-- Reads parentheses. -/
def parensTokenizer : Tokenizer :=
  [⟨"open", some "(", 1, fun text => if text.head? = some '(' then some 1 else none⟩,
    ⟨"close", some ")", 2, fun text => if text.head? = some ')' then some 1 else none⟩]

theorem parseTree_isDerivation_parens :
    ∃ tree, parseTree parens parens.table parensTokenizer 3 "(())" = .ok tree ∧
      tree.label.symbol = .nonterminal 0 ∧ tree.label.name = "S" ∧
      tree.Every (ParseNode.Fits parens) ∧
      ∃ tokens, parensTokenizer.tokenize "(())" = .ok tokens ∧
        tree.collect (ParseNode.leaf? parens) =
          tokens.map fun token => (token.terminal, token.text) := by
  have hparsed :
      (parseTree parens parens.table parensTokenizer 3 "(())").toOption.isSome = true := by
    decide +kernel
  cases h : parseTree parens parens.table parensTokenizer 3 "(())" with
  | error e =>
    rw [h] at hparsed
    cases hparsed
  | ok tree => exact ⟨tree, rfl, parseTree_isDerivation resolve_parens h⟩

end TopDown
