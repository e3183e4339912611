import TopDown.Proofs.Compilation
import TopDown.Proofs.Machine.Acceptance
import TopDown.Proofs.Standalone.Prediction
import TopDown.Proofs.Standalone.Reading
import TopDown.Proofs.Tree.Assembly
import TopDown.Proofs.Tree.Building

/-!
# Emitted parsers agree with the machine

An emitted parser has all tokens at hand and numbers where the machine has a stream and slots.
Move by move, both have the same stack, the same names in their arenas and the same tokens before
them.

* `SameStack` : the two stacks of the machine hold the pairs of the parser's one;
* `Matches`, `step_matches`, `run_matches` : the simulation;
* `drive_unreadable` : a machine whose stream breaks off errs there or before;
* `Compilation.standalone_agrees` : tokens, trees and errors are the same.
-/

namespace TopDown.Standalone

open Emission (Tables RuleRow lookaheadId)
open Machine TreeBuilder

variable {g : Grammar} {rows : List RuleRow} {stop : Nat}

/-! ## Configurations that match -/

/-- Stack entries that stand for the same. What number the empty symbol has does not matter. -/
inductive SameEntry : StackEntry → Option Slot → Option Symbol × Nat → Prop
  | finish {slot number} : SameEntry .finish slot (none, number)
  | empty {slot number} : SameEntry (.symbol .empty) slot (some .empty, number)
  | terminal {id number level} :
      SameEntry (.symbol (.terminal id)) (some ⟨number, level⟩) (some (.terminal id), number)
  | nonterminal {id number level} :
      SameEntry (.symbol (.nonterminal id)) (some ⟨number, level⟩) (some (.nonterminal id), number)

/-- The machine's two stacks and the parser's stack of pairs, entry by entry the same. -/
inductive SameStack :
    List StackEntry → List (Option Slot) → List (Option Symbol × Nat) → Prop
  | nil : SameStack [] [] []
  | cons {entry slot top below under stack} : SameEntry entry slot top →
      SameStack below under stack → SameStack (entry :: below) (slot :: under) (top :: stack)

theorem SameStack.length_eq {entries : List StackEntry} {slots : List (Option Slot)}
    {stack : List (Option Symbol × Nat)} (h : SameStack entries slots stack) :
    entries.length = slots.length := by
  induction h with
  | nil => rfl
  | cons _ _ ih => exact congrArg Nat.succ ih

theorem SameStack.append {entries below : List StackEntry} {slots under : List (Option Slot)}
    {stack stack' : List (Option Symbol × Nat)} (h : SameStack entries slots stack)
    (hbelow : SameStack below under stack') :
    SameStack (entries ++ below) (slots ++ under) (stack ++ stack') := by
  induction h with
  | nil => exact hbelow
  | cons hentry _ ih => exact .cons hentry ih

/-- The lexemes before the machine are the tokens before the parser, and the end at `stop`. -/
inductive Awaits (g : Grammar) (stop : Nat) : Lexeme → List Pull → List Standalone.Token → Prop
  | finish {rest} : Awaits g stop (.finish stop) rest []
  | token {token token' l rest rest' tokens'} : SameToken g token token' →
      advance rest = .ok (l, rest') → Awaits g stop l rest' tokens' →
      Awaits g stop (.token token) rest (token' :: tokens')

/-- A configuration of the machine and a state of an emitted parser at the same point. -/
structure Matches (g : Grammar) (stop : Nat) (c : Config (Arena ParseNode) (Option Slot))
    (s : Parser.State) : Prop where
  stack : SameStack c.stack c.slots s.stack
  nodes : s.nodes = c.record.mapLabels ParseNode.name
  awaits : Awaits g stop c.lookahead c.rest s.tokens
  size_pos : 0 < c.record.size

/-- Ends that are the same: a tree of the same names, or the same unexpected lexeme. -/
inductive SameEnd : Outcome (Arena ParseNode) (Option Slot) → Except Error Node → Prop
  | accepted {a : Arena ParseNode} : 0 < a.size →
      SameEnd (.accepted a) (.ok (Parser.build (a.mapLabels ParseNode.name)))
  | rejected {stack slots a offset expected found} :
      SameEnd (.rejected stack slots (.unexpected offset expected found) a)
        (.error (.unexpected offset expected found))

/-! ## Lookaheads -/

theorem awaits_pulls {tokens : List TopDown.Token} {tokens' : List Standalone.Token}
    (h : List.Forall₂ (SameToken g) tokens tokens') (stop : Nat) :
    ∃ l rest, advance (Token.pulls tokens ++ [.ok (.finish stop)]) = .ok (l, rest) ∧
      Awaits g stop l rest tokens' := by
  induction h with
  | nil => exact ⟨.finish stop, [], rfl, .finish⟩
  | @cons token _ tokens _ htoken _ ih =>
    obtain ⟨l, rest, hadvance, hawaits⟩ := ih
    exact ⟨.token token, Token.pulls tokens ++ [.ok (.finish stop)], rfl,
      .token htoken hadvance hawaits⟩

/-- Both look at the same lookahead. -/
theorem Awaits.lookahead {l : Lexeme} {rest : List Pull} {tokens' : List Standalone.Token}
    (h : Awaits g stop l rest tokens') :
    ∃ x, lookahead? g l = some x ∧ tokens'.head?.map Token.terminal = lookaheadId x := by
  cases h with
  | finish => exact ⟨.finish, rfl, rfl⟩
  | @token token token' _ _ _ _ htoken =>
    exact ⟨.terminal token'.terminal, by simp [lookahead?, htoken.terminal], rfl⟩

/-- Both say the same of a lexeme that they do not expect. -/
theorem Awaits.unexpected {l : Lexeme} {rest : List Pull} {tokens' : List Standalone.Token}
    (h : Awaits g stop l rest tokens') (expected : List Lookahead) :
    ∃ offset found,
      Machine.unexpected g expected l = .unexpected offset (expected.map (·.describe g)) found ∧
      Parser.unexpected (expected.map (·.describe g)) tokens' stop =
        .unexpected offset (expected.map (·.describe g)) found := by
  cases h with
  | finish => exact ⟨stop, "end of input", rfl, rfl⟩
  | @token token token' _ _ _ _ htoken =>
    refine ⟨token.start, "`" ++ token.text ++ "`", rfl, ?_⟩
    rw [← htoken.text, ← htoken.offset]
    rfl

/-! ## Moves -/

variable (rows)

theorem grow_cons {x : Symbol} (hx : x ≠ .empty) (parent : Nat) (body : List Symbol)
    (nodes : Arena String) :
    Parser.grow (Tables.of g rows g.table) parent (x :: body) nodes =
      let rest := Parser.grow (Tables.of g rows g.table) parent body
        (nodes.attach parent (g.symbolName x)).2
      ((some x, nodes.size) :: rest.1, rest.2) := by
  cases x with
  | empty => exact absurd rfl hx
  | terminal id => rfl
  | nonterminal id => rfl

theorem SameEntry.of_ne_empty {x : Symbol} (hx : x ≠ .empty) (number level : Nat) :
    SameEntry (.symbol x) (some ⟨number, level⟩) (some x, number) := by
  cases x with
  | empty => exact absurd rfl hx
  | terminal id => exact .terminal
  | nonterminal id => exact .nonterminal

/-- Both put the same nodes of a body under a node. -/
theorem grow_matches (parent level : Nat) (body : List Symbol) (a : Arena ParseNode) :
    SameStack
        ((body.zip (TreeBuilder.grow g parent level body a).1).map fun x => .symbol x.1)
        ((body.zip (TreeBuilder.grow g parent level body a).1).map Prod.snd)
        (Parser.grow (Tables.of g rows g.table) parent body (a.mapLabels ParseNode.name)).1 ∧
      (Parser.grow (Tables.of g rows g.table) parent body (a.mapLabels ParseNode.name)).2 =
        (TreeBuilder.grow g parent level body a).2.mapLabels ParseNode.name ∧
      a.size ≤ (TreeBuilder.grow g parent level body a).2.size := by
  induction body generalizing a with
  | nil => exact ⟨.nil, rfl, Nat.le_refl _⟩
  | cons x body ih =>
    by_cases hx : x = .empty
    · rw [hx]
      obtain ⟨hstack, hnodes, hsize⟩ := ih a
      exact ⟨.cons .empty hstack, hnodes, hsize⟩
    · have hattach : ((a.mapLabels ParseNode.name).attach parent (g.symbolName x)).2 =
          (a.attach parent (.ofSymbol g x)).2.mapLabels ParseNode.name :=
        congrArg Prod.snd (Arena.mapLabels_attach ParseNode.name a parent (.ofSymbol g x))
      have hsize := Arena.size_attach a parent (.ofSymbol g x)
      obtain ⟨hstack, hnodes, hle⟩ := ih (a.attach parent (.ofSymbol g x)).2
      rw [grow_node hx, grow_cons rows hx, hattach, Arena.size_mapLabels]
      refine ⟨.cons (.of_ne_empty hx a.size level) hstack, hnodes, Nat.le_trans ?_ hle⟩
      omega

/-- Where the machine finds no move, neither does the parser, and both expect the same. -/
theorem step_stuck (hg : g.WellFormed) (hdeterministic : g.table.isDeterministic = true)
    {entry : StackEntry} {slot : Option Slot} {top : Option Symbol × Nat}
    (hentry : SameEntry entry slot top) {l : Lexeme} {rest : List Pull}
    {tokens : List Standalone.Token} (hawaits : Awaits g stop l rest tokens) {e : ParseError}
    (he : chooseAction g g.table entry l = .error e) (below : List (Option Symbol × Nat))
    (nodes : Arena String) :
    ∃ offset expected found, e = .unexpected offset expected found ∧
      Parser.step (Tables.of g rows g.table) stop ⟨top :: below, nodes, tokens⟩ =
        .inr (.error (.unexpected offset expected found)) := by
  obtain rfl := chooseAction_error he
  obtain ⟨offset, found, herror, herror'⟩ := hawaits.unexpected (expectedAt g.table entry)
  refine ⟨offset, _, found, herror, ?_⟩
  rw [← herror']
  cases hentry with
  | finish =>
    cases hawaits with
    | finish => cases he
    | token => rfl
  | empty => cases he
  | @terminal id =>
    cases hawaits with
    | finish => rfl
    | @token _ token' _ _ _ _ htoken =>
      have hne : token'.terminal ≠ id := by
        rintro rfl
        rw [chooseAction_terminal htoken.terminal] at he
        cases he
      rw [Parser.step, if_neg hne]
      rfl
  | @nonterminal a =>
    obtain ⟨x, hx, hhead⟩ := hawaits.lookahead
    have hpredict : predict (Tables.of g rows g.table) a (tokens.head?.map Token.terminal) =
        none := by
      rw [hhead, predict_of g.ordered_table]
      cases hid : g.table.predict a x with
      | none => rfl
      | some id =>
        rw [chooseAction_nonterminal hx hid] at he
        cases he
    rw [Parser.step, hpredict]
    simp only
    rw [expected_of hg hdeterministic]
    rfl

/-- Where the machine expands a production, so does the parser. -/
theorem step_expand {l : Lexeme} {rest : List Pull} {tokens : List Standalone.Token}
    (hawaits : Awaits g stop l rest tokens) {x : Lookahead} (hx : lookahead? g l = some x)
    {a id number : Nat} (hid : g.table.predict a x = some id) (below : List (Option Symbol × Nat))
    (nodes : Arena String) :
    let grown := Parser.grow (Tables.of g rows g.table) number
      (g.productions.getD id ⟨g.start, []⟩).body nodes
    Parser.step (Tables.of g rows g.table) stop
        ⟨(some (.nonterminal a), number) :: below, nodes, tokens⟩ =
      .inl ⟨grown.1 ++ below, grown.2, tokens⟩ := by
  obtain ⟨y, hy, hhead⟩ := hawaits.lookahead
  cases hx.symm.trans hy
  have hpredict : predict (Tables.of g rows g.table) a (tokens.head?.map Token.terminal) =
      some id := by
    rw [hhead, predict_of g.ordered_table]
    exact hid
  have hbody : ((Tables.of g rows g.table).productions[id]?.map Production.body).getD [] =
      (g.productions.getD id ⟨g.start, []⟩).body := by
    change (g.productions[id]?.map Production.body).getD [] = _
    rw [(production_of_predict hid).1]
    rfl
  rw [Parser.step, hpredict]
  simp only
  rw [hbody]

/-- A move of the machine is a step of the parser. -/
theorem step_matches {maxDepth : Nat} {c c' : Config (Arena ParseNode) (Option Slot)}
    {s : Parser.State} (h : Matches g stop c s)
    (heffect : Effect g g.table (recorder g maxDepth) c (.running c')) :
    ∃ s', Parser.step (Tables.of g rows g.table) stop s = .inl s' ∧ Matches g stop c' s' := by
  obtain ⟨stack, nodes, tokens⟩ := s
  obtain ⟨hstack, hnodes, hawaits, hsize⟩ := h
  cases heffect with
  | epsilon =>
    cases hstack with
    | cons hentry hbelow =>
      cases hentry
      exact ⟨_, rfl, hbelow, hnodes, hawaits, hsize⟩
  | @shift id slot below under token rest a l' rest' hid hadvance =>
    cases hstack with
    | cons hentry hbelow =>
      cases hentry with
      | @terminal _ number level =>
        cases hawaits with
        | token htoken hadvance' hawaits =>
          cases hadvance.symm.trans hadvance'
          cases hid.symm.trans htoken.terminal
          refine ⟨_, if_pos rfl, hbelow, ?_, hawaits, ?_⟩
          · simp only at hnodes
            rw [hnodes, htoken.text]
            exact (Arena.mapLabels_relabel ParseNode.name a number
              (fun node => { node with name := token.text, text := some token.text })
              (fun _ => token.text) fun _ => rfl).symm
          · exact Nat.lt_of_lt_of_eq hsize (Arena.size_relabel ..).symm
  | @expand nonterminal slot below under l rest a x id slots a' hx hid hs =>
    cases hstack with
    | cons hentry hbelow =>
      cases hentry with
      | @nonterminal _ number level =>
        have hexpand : TreeBuilder.expand g maxDepth (some ⟨number, level⟩)
            (g.productions.getD id ⟨g.start, []⟩) l a = (.ok slots, a') := hs
        have hgrow := grow_of_expand hexpand
        obtain ⟨hchildren, hnodes', hle⟩ := grow_matches (g := g) rows number (level + 1)
          (g.productions.getD id ⟨g.start, []⟩).body a
        simp only at hgrow hnodes hsize
        rw [hgrow] at hchildren hnodes' hle
        rw [hnodes]
        exact ⟨_, step_expand rows hawaits hx hid _ _, hchildren.append hbelow, hnodes', hawaits,
          Nat.lt_of_lt_of_le hsize hle⟩

/-- Where the machine comes to an end, so does the parser, and to the same. -/
theorem step_ends (hg : g.WellFormed) (hdeterministic : g.table.isDeterministic = true)
    {maxDepth n : Nat} {c : Config (Arena ParseNode) (Option Slot)} {s : Parser.State}
    (h : Matches g stop c s) (hwithin : Within maxDepth (n + 1) c.slots)
    {outcome : Outcome (Arena ParseNode) (Option Slot)} (hfinal : outcome.IsFinal)
    (heffect : Effect g g.table (recorder g maxDepth) c outcome) :
    ∃ result, Parser.step (Tables.of g rows g.table) stop s = .inr result ∧
      SameEnd outcome result := by
  obtain ⟨stack, nodes, tokens⟩ := s
  obtain ⟨hstack, hnodes, hawaits, hsize⟩ := h
  simp only at hstack hnodes hawaits hsize
  cases heffect with
  | exhausted =>
    cases hstack
    exact ⟨_, rfl, hnodes ▸ .accepted hsize⟩
  | stuck he =>
    cases hstack with
    | cons hentry _ =>
      obtain ⟨offset, expected, found, rfl, hstep⟩ :=
        step_stuck rows hg hdeterministic hentry hawaits he _ nodes
      exact ⟨_, hstep, .rejected⟩
  | accept =>
    cases hstack with
    | cons hentry _ =>
      cases hentry
      cases hawaits
      exact ⟨_, rfl, hnodes ▸ .accepted hsize⟩
  | epsilon => cases hfinal
  | shift => cases hfinal
  | expand => cases hfinal
  | unreadable hid hadvance =>
    cases hawaits with
    | token _ hadvance' _ => cases hadvance.symm.trans hadvance'
  | refused _ _ hs => exact absurd hs (not_refused hwithin)

/-- Both run to the same end. -/
theorem run_matches (hg : g.WellFormed) (hdeterministic : g.table.isDeterministic = true)
    {maxDepth n : Nat} {c : Config (Arena ParseNode) (Option Slot)} {s : Parser.State}
    (h : Matches g stop c s) (hwithin : Within maxDepth n c.slots)
    (hfinal : (Machine.run g g.table (recorder g maxDepth) n c).IsFinal) :
    SameEnd (Machine.run g g.table (recorder g maxDepth) n c)
      (Parser.run (Tables.of g rows g.table) stop n s) := by
  induction n generalizing c s with
  | zero => cases hfinal
  | succ n ih =>
    rw [Parser.run]
    have hpaired : c.Paired := h.stack.length_eq
    rcases moves_or_ends (g := g) (t := g.table) (r := recorder g maxDepth) hpaired with
      ⟨c', heffect⟩ | ⟨outcome, houtcome, heffect⟩
    · obtain ⟨s', hs', hmatches⟩ := step_matches rows h heffect
      rw [run_succ_of_move heffect] at hfinal ⊢
      rw [hs']
      exact ih hmatches (within_step n c c' hwithin heffect) hfinal
    · obtain ⟨result, hresult, hsame⟩ :=
        step_ends rows hg hdeterministic h hwithin houtcome heffect
      rw [run_succ_of_end houtcome heffect, hresult]
      exact hsame

/-! ## Whole inputs -/

/-- The same verdict: trees with the same names, or the same unexpected lexeme. -/
inductive SameVerdict : Except ParseError ParseTree → Except Error Node → Prop
  | tree {tree : ParseTree} : SameVerdict (.ok tree) (.ok (tree.map ParseNode.name))
  | unexpected {offset expected found} :
      (Error.unexpected offset expected found).message =
        (ParseError.unexpected offset expected found).message →
      SameVerdict (.error (.unexpected offset expected found))
        (.error (.unexpected offset expected found))

/-- Both start at the same point. -/
theorem matches_start (g : Grammar) (maxDepth : Nat) {l : Lexeme} {rest : List Pull}
    {tokens : List Standalone.Token} (h : Awaits g stop l rest tokens) :
    Matches g stop (start g (recorder g maxDepth) l rest #[])
      ⟨[(some (.nonterminal g.start), 0), (none, 0)],
        Arena.add #[] (g.nonterminalName g.start), tokens⟩ := by
  have hnodes := Arena.mapLabels_add ParseNode.name #[] (.ofSymbol g (.nonterminal g.start))
  have hempty : Arena.mapLabels ParseNode.name #[] = #[] := Array.map_empty
  rw [hempty] at hnodes
  exact ⟨.cons .nonterminal (.cons .finish .nil), hnodes.symm, h, Nat.zero_lt_one⟩

theorem within_start (g : Grammar) {maxDepth n : Nat} (h : n + 1 ≤ maxDepth) (l : Lexeme)
    (rest : List Pull) : Within maxDepth n (start g (recorder g maxDepth) l rest #[]).slots := by
  have hroot : (start g (recorder g maxDepth) l rest #[]).slots =
      [some ⟨0, 1⟩, some ⟨0, 1⟩] := rfl
  intro slot hslot
  have hlevel : slot.level = 1 := by
    rw [hroot, List.mem_cons, List.mem_singleton] at hslot
    rcases hslot with hslot | hslot <;> cases hslot <;> rfl
  omega

/-- On tokens that can be read, the parser and the machine come to the same end. -/
theorem drive_matches (hg : g.WellFormed) (hdeterministic : g.table.isDeterministic = true)
    {tokens : List TopDown.Token} {tokens' : List Standalone.Token}
    (htokens : List.Forall₂ (SameToken g) tokens tokens') (stop : Nat) {maxDepth : Nat}
    (hdepth : g.moveBound tokens.length + 1 ≤ maxDepth) :
    ∃ outcome, drive g g.table (recorder g maxDepth)
        (Token.pulls tokens ++ [.ok (.finish stop)]) #[] =
          finish (recorder g maxDepth) outcome ∧
      SameEnd outcome (Parser.run (Tables.of g rows g.table) stop
        (Parser.stepBound (Tables.of g rows g.table) tokens'.length)
        ⟨[(some (.nonterminal g.start), 0), (none, 0)],
          Arena.add #[] (g.nonterminalName g.start), tokens'⟩) := by
  obtain ⟨l, rest, hadvance, hawaits⟩ := awaits_pulls htokens stop
  have hlength : (Token.pulls tokens ++ [.ok (.finish stop)] : List Pull).length =
      tokens.length + 1 := by
    simp [TopDown.Token.pulls]
  have hfinal := run_halts (n := tokens.length) hg (fillsBodies g maxDepth) hadvance #[]
    (Nat.le_of_eq hlength)
  have hfinal' := run_halts hg (fillsBodies g maxDepth) hadvance #[] (Nat.le_succ _)
  have hbound : Parser.stepBound (Tables.of g rows g.table) tokens'.length =
      g.moveBound tokens.length := by
    rw [htokens.length_eq]
    rfl
  refine ⟨_, drive_of_advance hadvance, ?_⟩
  rw [run_final_unique hfinal' hfinal, hbound]
  exact run_matches rows hg hdeterministic (matches_start g maxDepth hawaits)
    (within_start g hdepth l rest) hfinal

/-- The tree of an arena has the names of the tree of its names. -/
theorem exists_build {a : Arena ParseNode} (ha : 0 < a.size) :
    ∃ tree, a.assemble? = some tree ∧
      Parser.build (a.mapLabels ParseNode.name) = tree.map ParseNode.name := by
  obtain ⟨tree, htree⟩ := Arena.exists_assemble? ha
  refine ⟨tree, htree, ?_⟩
  rw [Parser.build, Arena.assemble?_mapLabels, htree]
  rfl

/-- On an input that can be read, the emitted parser and the machine come to the same verdict. -/
theorem parse_of_tokenize (hg : g.WellFormed) (hdeterministic : g.table.isDeterministic = true)
    {tokenizer : Tokenizer} {p : Parser} (hrules : List.Forall₂ (SameRule g) tokenizer p.rules)
    (htables : p.tables = Tables.of g rows g.table) {input : String}
    {tokens : List TopDown.Token} (h : tokenizer.tokenize input = .ok tokens) {maxDepth : Nat}
    (hdepth : g.moveBound tokens.length + 1 ≤ maxDepth) :
    SameVerdict (parseTree g g.table tokenizer maxDepth input) (p.parse input) := by
  have hreading := sameReading hrules input
  rw [h] at hreading
  obtain ⟨tokens', htokens', hsame⟩ : ∃ tokens', p.tokenize input = .ok tokens' ∧
      List.Forall₂ (SameToken g) tokens tokens' := by
    generalize p.tokenize input = result at hreading
    cases hreading with
    | @tokens _ tokens' hsame => exact ⟨tokens', rfl, hsame⟩
  obtain ⟨outcome, hdrive, hend⟩ := drive_matches rows hg hdeterministic hsame
    input.utf8ByteSize hdepth
  rw [← (Tokenizer.scan_of_tokenize h).2] at hdrive
  have hparse : p.parse input = Parser.run (Tables.of g rows g.table) input.utf8ByteSize
      (Parser.stepBound (Tables.of g rows g.table) tokens'.length)
      ⟨[(some (.nonterminal g.start), 0), (none, 0)],
        Arena.add #[] (g.nonterminalName g.start), tokens'⟩ := by
    rw [Parser.parse, htokens', htables]
    rfl
  rw [hparse, parseTree, hdrive]
  generalize Parser.run _ _ _ _ = result at hend
  cases hend with
  | accepted hsize =>
    obtain ⟨tree, htree, hbuild⟩ := exists_build hsize
    simp only [finish, htree, Option.getD_some, hbuild]
    exact .tree
  | rejected => exact .unexpected rfl

/-! ## Streams that break off -/

/-- What is before the machine are tokens that start before `offset`, and then an error. -/
def Unread (offset : Nat) (e : LexError) {σ ι : Type} (c : Config σ ι) : Prop :=
  ∃ token tokens, c.lookahead = .token token ∧ c.rest = TopDown.Token.pulls tokens ++ [.error e] ∧
    ∀ t ∈ token :: tokens, t.start < offset

theorem unread_step {σ ι : Type} {t : Table} {r : Recorder σ ι} {offset : Nat} {e : LexError}
    (c c' : Config σ ι) (h : Unread offset e c) (heffect : Effect g t r c (.running c')) :
    Unread offset e c' := by
  obtain ⟨token, tokens, hlookahead, hrest, hstart⟩ := h
  cases heffect with
  | epsilon => exact ⟨token, tokens, hlookahead, hrest, hstart⟩
  | expand => exact ⟨token, tokens, hlookahead, hrest, hstart⟩
  | shift hid hadvance =>
    simp only at hrest
    rw [hrest] at hadvance
    cases tokens with
    | nil => cases hadvance
    | cons next tokens =>
      cases hadvance
      exact ⟨next, tokens, rfl, rfl, fun t ht => hstart t (List.mem_cons_of_mem _ ht)⟩

/-- Such a machine can only be rejected by what the stream breaks off with, or by a token. -/
theorem error_of_unread {maxDepth n offset : Nat} {e : LexError}
    {c : Config (Arena ParseNode) (Option Slot)} (h : Unread offset e c)
    (hwithin : Within maxDepth (n + 1) c.slots) {stack : List StackEntry}
    {slots : List (Option Slot)} {e' : ParseError} {a : Arena ParseNode}
    (heffect : Effect g g.table (recorder g maxDepth) c (.rejected stack slots e' a)) :
    e' = .lexical e ∨ ∃ n expected found, e' = .unexpected n expected found ∧ n < offset := by
  obtain ⟨token, tokens, hlookahead, hrest, hstart⟩ := h
  cases heffect with
  | stuck he =>
    simp only at hlookahead
    rw [chooseAction_error he, hlookahead]
    exact .inr ⟨_, _, _, rfl, hstart token List.mem_cons_self⟩
  | unreadable hid hnext =>
    simp only at hrest
    rw [hrest] at hnext
    cases tokens with
    | nil =>
      cases hnext
      exact .inl rfl
    | cons _ _ => cases hnext
  | refused _ _ hs => exact absurd hs (not_refused hwithin)

/-- A machine whose stream breaks off errs there, or at a token before. -/
theorem drive_unreadable (hg : g.WellFormed) {tokens : List TopDown.Token} {offset : Nat}
    {e : LexError} (hstart : ∀ t ∈ tokens, t.start < offset) {maxDepth : Nat}
    (hdepth : g.moveBound tokens.length + 1 ≤ maxDepth) :
    ∃ e', (drive g g.table (recorder g maxDepth) (TopDown.Token.pulls tokens ++ [.error e]) #[]).1 =
        .error e' ∧
      (e' = .lexical e ∨ ∃ n expected found, e' = .unexpected n expected found ∧ n < offset) := by
  cases tokens with
  | nil => exact ⟨.lexical e, drive_of_error rfl, .inl rfl⟩
  | cons token tokens =>
    have hadvance : advance (TopDown.Token.pulls (token :: tokens) ++ [.error e]) =
        .ok (.token token, TopDown.Token.pulls tokens ++ [.error e]) := rfl
    have hlength : (TopDown.Token.pulls (token :: tokens) ++ [.error e] : List Pull).length ≤
        (token :: tokens).length + 1 := by
      simp [TopDown.Token.pulls]
    have hfinal := run_halts hg (fillsBodies g maxDepth) hadvance #[] hlength
    have hfinal' := run_halts hg (fillsBodies g maxDepth) hadvance #[] (Nat.le_succ _)
    have hunread : Unread offset e (start g (recorder g maxDepth) (.token token)
        (TopDown.Token.pulls tokens ++ [.error e]) #[]) := ⟨token, tokens, rfl, rfl, hstart⟩
    obtain ⟨k, c, ⟨hunread, hwithin⟩, heffect⟩ := run_stopped_counting
      (fun n c => Unread offset e c ∧ Within maxDepth n c.slots)
      (fun n c c' h heffect => ⟨unread_step c c' h.1 heffect, within_step n c c' h.2 heffect⟩)
      (paired_start ..) ⟨hunread, within_start g hdepth _ _⟩ hfinal
    have hdrive := drive_of_advance (g := g) (t := g.table) (r := recorder g maxDepth) (s := #[])
      hadvance
    rw [run_final_unique hfinal' hfinal] at hdrive
    generalize Machine.run g g.table (recorder g maxDepth) _ _ = outcome at heffect hdrive hfinal
    cases outcome with
    | running c' => cases hfinal
    | accepted a =>
      have haccepted := congrArg Prod.fst hdrive
      obtain ⟨⟨n, hn⟩, -⟩ := mem_language_of_accepted (fillsBodies g maxDepth) (by rintro _ ⟨⟩)
        haccepted
      cases hn
    | rejected stack slots e' a =>
      exact ⟨e', congrArg Prod.fst hdrive, error_of_unread hunread hwithin heffect⟩

/-- On an input that cannot be read, the emitted parser says so, and the machine errs there or at a
token before. -/
theorem parse_of_error (hg : g.WellFormed) {tokenizer : Tokenizer} {p : Parser}
    (hrules : List.Forall₂ (SameRule g) tokenizer p.rules) {input : String} {offset : Nat}
    {character : Char} (h : tokenizer.tokenize input = .error (.noMatch offset character)) :
    p.parse input = .error (.noMatch offset character) ∧
      ∃ bound, ∀ maxDepth, bound ≤ maxDepth →
        ∃ e, parseTree g g.table tokenizer maxDepth input = .error e ∧
          (e = .lexical (.noMatch offset character) ∨
            ∃ n expected found, e = .unexpected n expected found ∧ n < offset) := by
  constructor
  · have hreading := sameReading hrules input
    rw [h] at hreading
    unfold Parser.parse
    generalize p.tokenize input = result at hreading
    cases hreading
    rfl
  · obtain ⟨tokens, _, _, he, hreads, hscan⟩ := Tokenizer.scan_of_error h
    cases he
    refine ⟨g.moveBound tokens.length + 1, fun maxDepth hdepth => ?_⟩
    obtain ⟨e, hdrive, he⟩ := drive_unreadable hg hreads.start_lt.2 hdepth
    refine ⟨e, ?_, he⟩
    rw [parseTree, hscan]
    generalize drive _ _ _ _ _ = result at hdrive
    obtain ⟨verdict, a⟩ := result
    cases hdrive
    rfl

/-! ## Agreement -/

/-- What an emitted parser does on an input is what the machine does. A machine without a cap on the
depth of trees is one whose cap is as large as need be. -/
structure Agrees (c : Compilation) (p : Parser) (input : String) : Prop where
  reading : SameReading c.grammar (c.lexer.tokenizer.tokenize input) (p.tokenize input)
  verdict : ∀ tokens, c.lexer.tokenizer.tokenize input = .ok tokens →
    ∃ bound, ∀ maxDepth, bound ≤ maxDepth →
      SameVerdict (parseTree c.grammar c.table c.lexer.tokenizer maxDepth input) (p.parse input)
  /-- The machine may find fault with a token before it gets to what cannot be read. -/
  unreadable : ∀ offset character,
    c.lexer.tokenizer.tokenize input = .error (.noMatch offset character) →
      p.parse input = .error (.noMatch offset character) ∧
      ∃ bound, ∀ maxDepth, bound ≤ maxDepth →
        ∃ e, parseTree c.grammar c.table c.lexer.tokenizer maxDepth input = .error e ∧
          (e = .lexical (.noMatch offset character) ∨
            ∃ n expected found, e = .unexpected n expected found ∧ n < offset)

/-- A parser is emitted with the tables of its rules, grammar and prediction table. -/
theorem tables_of_emit {c : Compilation}
    (hrows : Emission.ruleRows c.grammar c.lexer.lexicon = .ok rows) {name path : String}
    {emitted : Emission.Parser} (h : c.emit name path = .ok emitted) :
    emitted.tables = Tables.of c.grammar rows c.table := by
  unfold Compilation.emit Emission.emit at h
  cases hname : Emission.parserName name with
  | error e =>
    rw [hname] at h
    cases h
  | ok name' =>
    cases hpath : Emission.modulePath path with
    | error e =>
      rw [hname, hpath] at h
      cases h
    | ok modules =>
      rw [hname, hpath, hrows] at h
      by_cases hconflicts : 0 < c.table.conflicts.length
      · simp only [hconflicts, if_true] at h
        cases h
      · simp only [hconflicts, if_false] at h
        cases h
        rfl

theorem agrees_of_sound {c : Compilation} {options : Grammar.Options} {engine : Pattern.Engine}
    (h : c.Sound options engine) {rules : List Standalone.Rule}
    (hrules : List.Forall₂ (SameRule c.grammar) c.lexer.tokenizer rules) (input : String) :
    Agrees c ⟨Tables.of c.grammar rows c.table, rules⟩ input := by
  obtain ⟨⟨ds, hds, hg⟩, -, htable, hdeterministic⟩ := h
  have hg := Grammar.WellFormed.of_resolve hds hg
  refine ⟨sameReading hrules input, fun tokens htokens => ?_, fun offset character herror => ?_⟩
  · rw [htable]
    exact ⟨_, fun _ => parse_of_tokenize rows hg hdeterministic hrules rfl htokens⟩
  · rw [htable]
    exact parse_of_error hg hrules herror

end TopDown.Standalone

namespace TopDown.Compilation

open Standalone (Agrees)

/-- An emitted parser can be made of what two texts compile to, and on every input it reads and
parses as the machine does, if both use the same engine for patterns, whichever that is. -/
theorem standalone_agrees {lexicon grammar : String} {strategy : Strategy}
    {options : Grammar.Options} {engine : Pattern.Engine} {c : Compilation}
    (h : ofTexts lexicon grammar strategy options engine = .ok c) :
    ∃ rows p, Emission.ruleRows c.grammar c.lexer.lexicon = .ok rows ∧
      (∀ name path emitted, c.emit name path = .ok emitted →
        emitted.tables = .of c.grammar rows c.table) ∧
      Standalone.Parser.new (.of c.grammar rows c.table) engine = .ok p ∧
      ∀ input, Agrees c p input := by
  have hsound := sound_of_ofTexts h
  obtain ⟨ds, -, hg⟩ := hsound.grammar
  obtain ⟨rows, rules, hrows, hnew, hrules⟩ :=
    Standalone.exists_sameRules hg hsound.tokenizer c.table
  exact ⟨rows, _, hrows, fun _ _ _ => Standalone.tables_of_emit rows hrows, hnew,
    Standalone.agrees_of_sound rows hsound hrules⟩

theorem standalone_agrees_parens :
    ∃ c rows p, ofTexts Sample.parens.lexicon Sample.parens.grammar .ll1 {} = .ok c ∧
      Emission.ruleRows c.grammar c.lexer.lexicon = .ok rows ∧
      Standalone.Parser.new (.of c.grammar rows c.table) = .ok p ∧
      Agrees c p "( () )" ∧ Agrees c p "( )) ?" := by
  have hcompiles : (ofTexts Sample.parens.lexicon Sample.parens.grammar .ll1 {}).toOption.isSome =
      true := by decide +kernel
  cases hc : ofTexts Sample.parens.lexicon Sample.parens.grammar .ll1 {} with
  | error e =>
    rw [hc] at hcompiles
    cases hcompiles
  | ok c =>
    obtain ⟨rows, p, hrows, -, hp, hagrees⟩ := standalone_agrees hc
    exact ⟨c, rows, p, rfl, hrows, hp, hagrees "( () )", hagrees "( )) ?"⟩

end TopDown.Compilation
