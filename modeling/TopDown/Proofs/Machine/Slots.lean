import TopDown.Proofs.Machine.Halting
import TopDown.Proofs.Tree.Derivation

/-!
# Every slot is used once

The slots that a recorder gives out make up a tree: below a slot stand those that it got for the
body it was expanded to. A run uses them in the order of this tree, a slot before those below it and
these from left to right. What it has not used yet lies on the stack.

* `SlotCall`, `Report`, `Recorder.reported` : a recorder that also keeps what it is asked;
  `drive_reported` : this changes nothing else;
* `Handout`, `Handout.Fits` : a slot with the symbol it was given for and the call that used it;
* `Spends` : calls that use up slots from the left; `Forest`, `Spends.forest` : the trees of these
  slots;
* `Tended` : the calls so far and the two stacks, as a tree of all slots;
* `Spent` : the two stacks hold one list of symbols with their slots, which the calls have led to;
* `spending_start`, `spending_step` : the invariant of a run;
* `Fails`, `Concludes` : why a run ends with an error, and the last report of any run;
* `drive_spends_slots` : the two stacks are such stacks all along, and a run that accepts has used
  every slot.
-/

namespace TopDown

variable {σ ι : Type}

/-! ## Reports with slots -/

/-- A call that is passed a slot, with the answer to it. -/
inductive SlotCall (ι : Type) where
  | expand (slot : ι) (production : Production) (answer : Except ParseError (List ι))
  | shift (slot : ι) (token : Token)
  | epsilon (slot : ι)

/-- What a recorder is told in a run. -/
inductive Report (ι : Type) where
  | call (c : SlotCall ι)
  | step (stack : List StackEntry) (lookahead : Lexeme) (action : Action)
  | reject (stack : List StackEntry) (error : ParseError)

namespace Report

def call? : Report ι → Option (SlotCall ι)
  | call c => some c
  | _ => none

/-- The stack that the recorder is shown. -/
def stack? : Report ι → Option (List StackEntry)
  | call _ => none
  | step stack _ _ => some stack
  | reject stack _ => some stack

/-- The calls among reports. -/
def calls (log : List (Report ι)) : List (SlotCall ι) := log.filterMap call?

@[simp] theorem calls_nil : calls ([] : List (Report ι)) = [] := rfl

@[simp] theorem calls_append (xs ys : List (Report ι)) : calls (xs ++ ys) = calls xs ++ calls ys :=
  List.filterMap_append

@[simp] theorem calls_cons_call (c : SlotCall ι) (log : List (Report ι)) :
    calls (.call c :: log) = c :: calls log := rfl

@[simp] theorem calls_cons_step (stack : List StackEntry) (l : Lexeme) (action : Action)
    (log : List (Report ι)) : calls (.step stack l action :: log) = calls log := rfl

end Report

/-- The token that the call shifts. -/
def SlotCall.token? : SlotCall ι → Option Token
  | shift _ token => some token
  | _ => none

/-- Keeps all reports beside what `r` keeps. -/
def Recorder.reported (r : Recorder σ ι) : Recorder (σ × List (Report ι)) ι where
  root start s := ((r.root start s.1).1, (r.root start s.1).2, s.2)
  expand slot p l s :=
    ((r.expand slot p l s.1).1, (r.expand slot p l s.1).2,
      s.2 ++ [.call (.expand slot p (r.expand slot p l s.1).1)])
  shift slot token s := (r.shift slot token s.1, s.2 ++ [.call (.shift slot token)])
  epsilon slot s := (r.epsilon slot s.1, s.2 ++ [.call (.epsilon slot)])
  step stack l action s := (r.step stack l action s.1, s.2 ++ [.step stack l action])
  reject stack e s := (r.reject stack e s.1, s.2 ++ [.reject stack e])

theorem Recorder.reported_extends (r : Recorder σ ι) : r.reported.Extends r Prod.fst where
  root _ _ := rfl
  expand _ _ _ _ := rfl
  shift _ _ _ := rfl
  epsilon _ _ := rfl
  step _ _ _ _ := rfl
  reject _ _ _ := rfl

namespace Machine

open Grammar

variable {g : Grammar} {t : Table} {r : Recorder σ ι}

/-- All that a recorder is told in a run, in order. -/
def reports (g : Grammar) (t : Table) (r : Recorder σ ι) (stream : List Pull) (s : σ) :
    List (Report ι) := (drive g t r.reported stream (s, [])).2.2

/-- Keeping reports changes neither the verdict nor what the recorder keeps. -/
theorem drive_reported (stream : List Pull) (s : σ) :
    drive g t r.reported stream (s, []) =
      ((drive g t r stream s).1, (drive g t r stream s).2, reports g t r stream s) := by
  have hdrive := drive_extends (g := g) (t := t) r.reported_extends stream (s, [])
  rw [← hdrive]
  rfl

/-! ## Trees of slots -/

/-- A slot that has been given out for a symbol, and the call that it was passed to. -/
structure Handout (ι : Type) where
  symbol : Symbol
  slot : ι
  call : Option (SlotCall ι)

namespace Handout

/-- The symbol with its slot. -/
def given (h : Handout ι) : Symbol × ι := (h.symbol, h.slot)

/-- A slot that has not been passed to a call. -/
def fresh (x : Symbol × ι) : Handout ι := ⟨x.1, x.2, none⟩

/-- A slot that has been expanded to the body of a production. -/
def expanded (p : Production) (slot : ι) (slots : List ι) : Handout ι :=
  ⟨.nonterminal p.lhs, slot, some (.expand slot p (.ok slots))⟩

/-- What the call says of a slot and of the slots below it. A nonterminal is expanded to one of its
productions, which gives a slot for every symbol of the body. Otherwise no slot is given out. -/
def Fits (g : Grammar) (h : Handout ι) (children : List (Tree (Handout ι))) : Prop :=
  match h.call with
  | none => children = []
  | some (.shift slot _) => slot = h.slot ∧ (∃ id, h.symbol = .terminal id) ∧ children = []
  | some (.epsilon slot) => slot = h.slot ∧ h.symbol = .empty ∧ children = []
  | some (.expand slot p (.error _)) =>
    slot = h.slot ∧ h.symbol = .nonterminal p.lhs ∧ p ∈ g.productions ∧ children = []
  | some (.expand slot p (.ok slots)) =>
    slot = h.slot ∧ h.symbol = .nonterminal p.lhs ∧ p ∈ g.productions ∧
      slots.length = p.body.length ∧ children.map (·.label.given) = p.body.zip slots

end Handout

/-- Calls that use slots, each the first one that is left, and put those that they get in its
place. -/
inductive Spends (g : Grammar) :
    List (Symbol × ι) → List (SlotCall ι) → List (Symbol × ι) → Prop
  | nil {xs} : Spends g xs [] xs
  | shift {id slot token xs calls rest} : Spends g xs calls rest →
      Spends g ((.terminal id, slot) :: xs) (.shift slot token :: calls) rest
  | epsilon {slot xs calls rest} : Spends g xs calls rest →
      Spends g ((.empty, slot) :: xs) (.epsilon slot :: calls) rest
  | expand {p slot slots xs calls rest} : p ∈ g.productions → slots.length = p.body.length →
      Spends g (p.body.zip slots ++ xs) calls rest →
      Spends g ((.nonterminal p.lhs, slot) :: xs) (.expand slot p (.ok slots) :: calls) rest
  | refused {p slot e xs calls rest} : p ∈ g.productions → Spends g xs calls rest →
      Spends g ((.nonterminal p.lhs, slot) :: xs) (.expand slot p (.error e) :: calls) rest

theorem Spends.trans {xs ys zs : List (Symbol × ι)} {calls calls' : List (SlotCall ι)}
    (h : Spends g xs calls ys) (h' : Spends g ys calls' zs) :
    Spends g xs (calls ++ calls') zs := by
  induction h with
  | nil => exact h'
  | shift _ ih => exact .shift (ih h')
  | epsilon _ ih => exact .epsilon (ih h')
  | expand hp hslots _ ih => exact .expand hp hslots (ih h')
  | refused hp _ ih => exact .refused hp (ih h')

/-- Slots side by side, the trees of what they have led to, and among these the slots that have been
used and those that have not, from left to right. -/
structure Forest (g : Grammar) (xs : List (Symbol × ι)) (calls : List (SlotCall ι))
    (rest : List (Symbol × ι)) (ts : List (Tree (Handout ι))) (used unused : List (Handout ι)) :
    Prop where
  given : ts.map (·.label.given) = xs
  fits : ∀ t ∈ ts, t.Every (Handout.Fits g)
  preorder : ts.flatMap (Tree.collect some) = used ++ unused
  calls_eq : used.map Handout.call = calls.map some
  rest_eq : unused.map Handout.given = rest
  uncalled : ∀ h ∈ unused, h.call = none

section Forest

variable {xs rest : List (Symbol × ι)} {calls : List (SlotCall ι)} {ts : List (Tree (Handout ι))}
  {used unused : List (Handout ι)} {slot : ι}

theorem forest_nil (xs : List (Symbol × ι)) :
    Forest g xs [] xs (xs.map fun x => .node (.fresh x) []) [] (xs.map .fresh) where
  given := by
    rw [List.map_map]
    exact List.map_id xs
  fits t ht := by
    obtain ⟨x, -, rfl⟩ := List.mem_map.1 ht
    exact .node rfl fun _ ht => nomatch ht
  preorder := by
    rw [List.flatMap_map, List.nil_append]
    simp only [Tree.collect_node, List.flatMap_nil, List.append_nil, Option.toList_some]
    exact List.map_eq_flatMap.symm
  calls_eq := rfl
  rest_eq := by
    rw [List.map_map]
    exact List.map_id xs
  uncalled h hh := by
    obtain ⟨x, -, rfl⟩ := List.mem_map.1 hh
    rfl

/-- A slot that is used without giving out others. -/
theorem Forest.leaf (h : Forest g xs calls rest ts used unused) {x : Symbol} {c : SlotCall ι}
    (hfits : Handout.Fits g ⟨x, slot, some c⟩ []) :
    Forest g ((x, slot) :: xs) (c :: calls) rest (.node ⟨x, slot, some c⟩ [] :: ts)
      (⟨x, slot, some c⟩ :: used) unused where
  given := by rw [List.map_cons, h.given]; rfl
  fits := List.forall_mem_cons.2 ⟨.node hfits fun _ ht => (nomatch ht), h.fits⟩
  preorder := by rw [List.flatMap_cons, Tree.collect_node, h.preorder]; rfl
  calls_eq := by rw [List.map_cons, h.calls_eq]; rfl
  rest_eq := h.rest_eq
  uncalled := h.uncalled

/-- A slot that is expanded has the trees of the slots of the body below it. -/
theorem Forest.expand {p : Production} {slots : List ι} (hp : p ∈ g.productions)
    (hslots : slots.length = p.body.length)
    (h : Forest g (p.body.zip slots ++ xs) calls rest ts used unused) :
    ∃ ts', Forest g ((.nonterminal p.lhs, slot) :: xs) (.expand slot p (.ok slots) :: calls) rest
      ts' (.expanded p slot slots :: used) unused := by
  obtain ⟨children, siblings, rfl, hchildren, hsiblings⟩ := List.map_eq_append_iff.1 h.given
  obtain ⟨hbelow, hbeside⟩ := List.forall_mem_append.1 h.fits
  refine ⟨.node (.expanded p slot slots) children :: siblings, ?_, ?_, ?_, ?_, h.rest_eq,
    h.uncalled⟩
  · rw [List.map_cons, hsiblings]
    rfl
  · exact List.forall_mem_cons.2 ⟨.node ⟨rfl, rfl, hp, hslots, hchildren⟩ hbelow, hbeside⟩
  · have hpreorder := h.preorder
    rw [List.flatMap_append] at hpreorder
    rw [List.flatMap_cons, Tree.collect_node, List.append_assoc, hpreorder]
    rfl
  · rw [List.map_cons, h.calls_eq]
    rfl

end Forest

/-- What is used up from the left is used in the order of trees. -/
theorem Spends.forest {xs rest : List (Symbol × ι)} {calls : List (SlotCall ι)}
    (h : Spends g xs calls rest) : ∃ ts used unused, Forest g xs calls rest ts used unused := by
  induction h with
  | nil => exact ⟨_, _, _, forest_nil _⟩
  | shift _ ih =>
    obtain ⟨ts, used, unused, hforest⟩ := ih
    exact ⟨_, _, unused, hforest.leaf ⟨rfl, ⟨_, rfl⟩, rfl⟩⟩
  | epsilon _ ih =>
    obtain ⟨ts, used, unused, hforest⟩ := ih
    exact ⟨_, _, unused, hforest.leaf ⟨rfl, rfl, rfl⟩⟩
  | expand hp hslots _ ih =>
    obtain ⟨ts, used, unused, hforest⟩ := ih
    obtain ⟨ts', hforest'⟩ := hforest.expand hp hslots
    exact ⟨ts', _, unused, hforest'⟩
  | refused hp _ ih =>
    obtain ⟨ts, used, unused, hforest⟩ := ih
    exact ⟨_, _, unused, hforest.leaf ⟨rfl, rfl, hp, rfl⟩⟩

/-- The calls of a run and the two stacks that they lead to. All slots that have been given out make
up a tree below the root's. In the order of this tree, a slot before those below it and these from
left to right, come first the slots that have been used, each by one call, and then those that lie
on the one stack, while the symbols they were given for lie on the other. Below them lies the end
marker, with the root's slot beside it. -/
structure Tended (g : Grammar) (root : ι) (calls : List (SlotCall ι)) (stack : List StackEntry)
    (slots : List ι) (tree : Tree (Handout ι)) (used unused : List (Handout ι)) : Prop where
  root_eq : tree.label.given = (.nonterminal g.start, root)
  fits : tree.Every (Handout.Fits g)
  preorder : tree.collect some = used ++ unused
  calls_eq : used.map Handout.call = calls.map some
  uncalled : ∀ h ∈ unused, h.call = none
  entries_eq : stack = unused.map (fun h => .symbol h.symbol) ++ [.finish]
  slots_eq : slots = unused.map Handout.slot ++ [root]

/-! ## The invariant -/

/-- The calls have led to the two stacks: what is left of the symbols and their slots, one list of
pairs, lies on both, on the end marker and the root's slot. -/
def Spent (g : Grammar) (root : ι) (calls : List (SlotCall ι)) (stack : List StackEntry)
    (slots : List ι) : Prop :=
  ∃ rest, Spends g [(.nonterminal g.start, root)] calls rest ∧
    stack = rest.map (fun x => .symbol x.1) ++ [.finish] ∧ slots = rest.map Prod.snd ++ [root]

theorem Spent.length_eq {root : ι} {calls : List (SlotCall ι)} {stack : List StackEntry}
    {slots : List ι} (h : Spent g root calls stack slots) : stack.length = slots.length := by
  obtain ⟨rest, -, rfl, rfl⟩ := h
  simp only [List.length_append, List.length_map, List.length_singleton]

theorem Spent.tended {root : ι} {calls : List (SlotCall ι)} {stack : List StackEntry}
    {slots : List ι} (h : Spent g root calls stack slots) :
    ∃ tree used unused, Tended g root calls stack slots tree used unused := by
  obtain ⟨rest, hspends, rfl, rfl⟩ := h
  obtain ⟨ts, used, unused, hgiven, hfits, hpreorder, hcalls, rfl, huncalled⟩ := hspends.forest
  obtain ⟨tree, rfl, hroot⟩ := List.map_eq_singleton_iff.1 hgiven
  rw [List.flatMap_singleton] at hpreorder
  refine ⟨tree, used, unused, hroot, hfits tree List.mem_cons_self, hpreorder, hcalls, huncalled,
    ?_, ?_⟩
  · simp only [List.map_map, Function.comp_def, Handout.given]
  · simp only [List.map_map, Function.comp_def, Handout.given]

section Moves

variable {root slot : ι} {calls : List (SlotCall ι)} {below : List StackEntry} {under : List ι}

/-- Under a symbol lies its slot. -/
theorem Spent.of_symbol {x : Symbol} (h : Spent g root calls (.symbol x :: below) (slot :: under)) :
    ∃ rest, Spends g [(.nonterminal g.start, root)] calls ((x, slot) :: rest) ∧
      below = rest.map (fun x => .symbol x.1) ++ [.finish] ∧
      under = rest.map Prod.snd ++ [root] := by
  obtain ⟨rest, hspends, hstack, hslots⟩ := h
  cases rest with
  | nil => cases hstack
  | cons y rest =>
    cases hstack
    cases hslots
    exact ⟨rest, hspends, rfl, rfl⟩

theorem Spent.epsilon (h : Spent g root calls (.symbol .empty :: below) (slot :: under)) :
    Spent g root (calls ++ [.epsilon slot]) below under := by
  obtain ⟨rest, hspends, rfl, rfl⟩ := h.of_symbol
  exact ⟨rest, hspends.trans (.epsilon .nil), rfl, rfl⟩

theorem Spent.shift {id : Nat}
    (h : Spent g root calls (.symbol (.terminal id) :: below) (slot :: under)) (token : Token) :
    Spent g root (calls ++ [.shift slot token]) below under := by
  obtain ⟨rest, hspends, rfl, rfl⟩ := h.of_symbol
  exact ⟨rest, hspends.trans (.shift .nil), rfl, rfl⟩

theorem Spent.refused {p : Production} (hp : p ∈ g.productions)
    (h : Spent g root calls (.symbol (.nonterminal p.lhs) :: below) (slot :: under))
    (e : ParseError) : Spent g root (calls ++ [.expand slot p (.error e)]) below under := by
  obtain ⟨rest, hspends, rfl, rfl⟩ := h.of_symbol
  exact ⟨rest, hspends.trans (.refused hp .nil), rfl, rfl⟩

theorem Spent.expand {p : Production} (hp : p ∈ g.productions) {slots : List ι}
    (hslots : slots.length = p.body.length)
    (h : Spent g root calls (.symbol (.nonterminal p.lhs) :: below) (slot :: under)) :
    Spent g root (calls ++ [.expand slot p (.ok slots)])
      ((p.body.zip slots).map (fun x => .symbol x.1) ++ below)
      ((p.body.zip slots).map Prod.snd ++ under) := by
  obtain ⟨rest, hspends, rfl, rfl⟩ := h.of_symbol
  refine ⟨p.body.zip slots ++ rest, hspends.trans (.expand hp hslots .nil), ?_, ?_⟩
  · rw [List.map_append, List.append_assoc]
  · rw [List.map_append, List.append_assoc]

end Moves

/-- Every stack among the reports is one that the calls before it lead to. -/
def AllSpent (g : Grammar) (root : ι) (log : List (Report ι)) : Prop :=
  ∀ before report after, log = before ++ report :: after →
    ∀ stack ∈ report.stack?, ∃ slots, Spent g root (Report.calls before) stack slots

namespace AllSpent

variable {root : ι} {log : List (Report ι)} {stack : List StackEntry} {slots : List ι}
  (h : AllSpent g root log)

include h

theorem call (c : SlotCall ι) : AllSpent g root (log ++ [.call c]) :=
  forall_split_concat h (by rintro _ ⟨⟩)

theorem step (hspent : Spent g root (Report.calls log) stack slots) (l : Lexeme)
    (action : Action) : AllSpent g root (log ++ [.step stack l action]) :=
  forall_split_concat h (by rintro _ ⟨⟩; exact ⟨slots, hspent⟩)

theorem reject (hspent : Spent g root (Report.calls log) stack slots) (e : ParseError) :
    AllSpent g root (log ++ [.reject stack e]) :=
  forall_split_concat h (by rintro _ ⟨⟩; exact ⟨slots, hspent⟩)

end AllSpent

/-- The tokens that have been shifted. -/
def shifted (log : List (Report ι)) : List Token := (Report.calls log).filterMap SlotCall.token?

section Log

variable (log : List (Report ι)) (stack : List StackEntry) (l : Lexeme) (action : Action)
  (c : SlotCall ι)

theorem calls_move :
    Report.calls (log ++ [.step stack l action] ++ [.call c]) = Report.calls log ++ [c] := by
  simp

theorem shifted_move :
    shifted (log ++ [.step stack l action] ++ [.call c]) = shifted log ++ c.token?.toList := by
  rw [shifted, calls_move, List.filterMap_append, ← shifted]
  cases h : c.token? <;> simp [h]

end Log

/-- The invariant of a run: the calls so far have led to all stacks that were shown and to these
two, and the stream is the shifted tokens with what is pending behind them. -/
structure Spending (g : Grammar) (root : ι) (stream : List Pull)
    (c : Config (σ × List (Report ι)) ι) : Prop where
  log : AllSpent g root c.record.2
  spent : Spent g root (Report.calls c.record.2) c.stack c.slots
  pending : ∃ pending, Behind stream (shifted c.record.2) pending ∧
    advance pending = .ok (c.lookahead, c.rest)

theorem spending_start {stream rest : List Pull} {l : Lexeme} (h : advance stream = .ok (l, rest))
    (s : σ) : Spending g (r.root g.start s).1 stream (start g r.reported l rest (s, [])) where
  log := forall_split_nil
  spent := ⟨[(.nonterminal g.start, _)], .nil, rfl, rfl⟩
  pending := ⟨stream, rfl, h⟩

section Moves

variable {root : ι} {stream : List Pull} {c : Config (σ × List (Report ι)) ι} {action : Action}
  {call : SlotCall ι}

/-- A move is reported, and makes one call. -/
theorem Spending.move {c' : Config (σ × List (Report ι)) ι} (h : Spending g root stream c)
    (hrecord : c'.record.2 = c.record.2 ++ [.step c.stack c.lookahead action] ++ [.call call])
    (hspent : Spent g root (Report.calls c.record.2 ++ [call]) c'.stack c'.slots)
    (hpending : ∃ pending, Behind stream (shifted c.record.2 ++ call.token?.toList) pending ∧
      advance pending = .ok (c'.lookahead, c'.rest)) :
    Spending g root stream c' where
  log := by
    rw [hrecord]
    exact (h.log.step h.spent c.lookahead action).call call
  spent := by
    rw [hrecord, calls_move]
    exact hspent
  pending := by
    rw [hrecord, shifted_move]
    exact hpending

/-- An expansion adds its report, whatever it answers. -/
theorem reported_expand {slot : ι} {p : Production} {l : Lexeme} {s s' : σ × List (Report ι)}
    {answer : Except ParseError (List ι)} (h : r.reported.expand slot p l s = (answer, s')) :
    s'.2 = s.2 ++ [.call (.expand slot p answer)] := by
  cases h
  rfl

theorem spending_step (hr : r.FillsBodies) (c c' : Config (σ × List (Report ι)) ι)
    (h : Spending g root stream c) (heffect : Effect g g.table r.reported c (.running c')) :
    Spending g root stream c' := by
  obtain ⟨pending, hbehind, hnext⟩ := h.pending
  cases heffect with
  | epsilon =>
    exact h.move rfl h.spent.epsilon ⟨pending, by simpa [SlotCall.token?] using hbehind, hnext⟩
  | @shift id slot below under token rest s l' rest' hid hadvance =>
    exact h.move rfl (h.spent.shift token) ⟨rest, hbehind.shift hnext, hadvance⟩
  | expand hx hid hs =>
    obtain ⟨hp, rfl⟩ := production_of_predict hid
    have hslots := fillsBodies_extends r.reported_extends hr _ _ _ _ _ _ hs
    exact h.move (reported_expand hs) (h.spent.expand (List.mem_of_getElem? hp) hslots)
      ⟨pending, by simpa [SlotCall.token?] using hbehind, hnext⟩

end Moves

/-! ## A whole run -/

/-- Why a run that has made these reports ends with an error: its stack has no move on what is
pending, or the expansion just before was refused. -/
inductive Fails (g : Grammar) (stream : List Pull) :
    List (Report ι) → List StackEntry → ParseError → Prop
  | stopped {log stack pending e} : Behind stream (shifted log) pending →
      Refuses g g.table stack pending e → Fails g stream log stack e
  | refused {log slot p stack e} :
      Fails g stream (log ++ [.call (.expand slot p (.error e))]) stack e

/-- What ends a run is the last report: a move that accepts on the end marker alone, or an error on
a stack that it fails on. -/
structure Concludes (g : Grammar) (root : ι) (stream : List Pull) (verdict : Except ParseError Unit)
    (log : List (Report ι)) : Prop where
  all_spent : AllSpent g root log
  accepted : verdict = .ok () →
    ∃ before l, log = before ++ [Report.step [.finish] l .accept]
  rejected : ∀ e, verdict = .error e →
    ∃ before stack, log = before ++ [.reject stack e] ∧ Fails g stream before stack e

theorem concludes_error {root : ι} {stream : List Pull} {log : List (Report ι)}
    {stack : List StackEntry} {slots : List ι} {e : ParseError} (hlog : AllSpent g root log)
    (hspent : Spent g root (Report.calls log) stack slots) (hfails : Fails g stream log stack e) :
    Concludes g root stream (.error e) (log ++ [.reject stack e]) where
  all_spent := hlog.reject hspent e
  accepted := nofun
  rejected := by
    rintro _ ⟨⟩
    exact ⟨log, stack, rfl, hfails⟩

section Ends

variable {root : ι} {stream : List Pull} {c : Config (σ × List (Report ι)) ι}

/-- A move that makes a call and is rejected then. -/
theorem Spending.rejects_move {action : Action} {call : SlotCall ι} {log : List (Report ι)}
    {below : List StackEntry} {under : List ι} (h : Spending g root stream c)
    (hlog : log = c.record.2 ++ [.step c.stack c.lookahead action] ++ [.call call])
    (hspent : Spent g root (Report.calls c.record.2 ++ [call]) below under) :
    AllSpent g root log ∧ Spent g root (Report.calls log) below under := by
  rw [hlog, calls_move]
  exact ⟨(h.log.step h.spent c.lookahead action).call call, hspent⟩

/-- The last move of a run that is rejected. -/
theorem Spending.rejects {stack : List StackEntry} {slots : List ι} {e : ParseError}
    {s' : σ × List (Report ι)} (h : Spending g root stream c)
    (heffect : Effect g g.table r.reported c (.rejected stack slots e s')) :
    (AllSpent g root s'.2 ∧ Spent g root (Report.calls s'.2) stack slots) ∧
      Fails g stream s'.2 stack e := by
  obtain ⟨pending, hbehind, hnext⟩ := h.pending
  cases heffect with
  | stuck hchoose => exact ⟨⟨h.log, h.spent⟩, .stopped hbehind (.stuck hnext hchoose)⟩
  | @unreadable id slot below under token rest s e hid hadvance =>
    have hshifted := shifted_move s.2 (.symbol (.terminal id) :: stack) (.token token) .shift
      (.shift slot token)
    refine ⟨h.rejects_move rfl (h.spent.shift token), .stopped ?_ (refuses_of_advance hadvance)⟩
    exact hshifted ▸ hbehind.shift hnext
  | @refused a slot below under l rest s x id e s' hx hid hs =>
    obtain ⟨hp, rfl⟩ := production_of_predict hid
    have hlog := reported_expand hs
    refine ⟨h.rejects_move hlog (h.spent.refused (List.mem_of_getElem? hp) e), ?_⟩
    rw [hlog]
    exact .refused

/-- The last move of a run that accepts is made on the end marker alone. -/
theorem Spending.accepts {s' : σ × List (Report ι)} (h : Spending g root stream c)
    (heffect : Effect g g.table r.reported c (.accepted s')) :
    AllSpent g root s'.2 ∧ ∃ before l, s'.2 = before ++ [Report.step [.finish] l .accept] := by
  obtain ⟨left, -, hstack, -⟩ := h.spent
  cases heffect with
  | exhausted => cases left <;> cases hstack
  | @accept slot below under n rest s =>
    refine ⟨h.log.step h.spent (.finish n) .accept, s.2, .finish n, ?_⟩
    cases left with
    | nil =>
      cases hstack
      rfl
    | cons x left => cases hstack

/-- The last move of a run. -/
theorem Spending.concludes {outcome : Outcome (σ × List (Report ι)) ι}
    (h : Spending g root stream c) (hfinal : outcome.IsFinal)
    (heffect : Effect g g.table r.reported c outcome) :
    Concludes g root stream (finish r.reported outcome).1 (finish r.reported outcome).2.2 := by
  cases outcome with
  | running c' => cases hfinal
  | accepted s' =>
    obtain ⟨hlog, hlast⟩ := h.accepts heffect
    exact ⟨hlog, fun _ => hlast, nofun⟩
  | rejected stack slots e s' =>
    obtain ⟨⟨hlog, hspent⟩, hfails⟩ := h.rejects heffect
    exact concludes_error hlog hspent hfails

end Ends

/-- As long as a run has not accepted, its calls have led to its two stacks. -/
theorem spent_run (hr : r.FillsBodies) {stream rest : List Pull} {l : Lexeme}
    (hnext : advance stream = .ok (l, rest)) (s : σ) {n : Nat} {stack : List StackEntry}
    {slots : List ι}
    (h : (run g g.table r.reported n (start g r.reported l rest (s, []))).stacks? =
      some (stack, slots)) :
    Spent g (r.root g.start s).1
      (Report.calls (run g g.table r.reported n (start g r.reported l rest (s, []))).record.2)
      stack slots := by
  have hstart := spending_start (g := g) (r := r) hnext s
  cases hrun : run g g.table r.reported n (start g r.reported l rest (s, [])) with
  | running c =>
    rw [hrun] at h
    cases h
    exact (run_running (spending_step hr) (paired_start ..) hstart hrun).spent
  | accepted s' =>
    rw [hrun] at h
    cases h
  | rejected stack' slots' e s' =>
    rw [hrun] at h
    cases h
    obtain ⟨c, hc, heffect⟩ :=
      run_stopped (spending_step hr) (paired_start ..) hstart (by rw [hrun]; trivial)
    rw [hrun] at heffect
    exact (hc.rejects heffect).1.2

theorem concludes_reports (hg : g.WellFormed) (hr : r.FillsBodies) (stream : List Pull) (s : σ) :
    Concludes g (r.root g.start s).1 stream (drive g g.table r stream s).1
      (reports g g.table r stream s) := by
  have hreported := drive_reported (g := g) (t := g.table) (r := r) stream s
  have hverdict : (drive g g.table r stream s).1 =
      (drive g g.table r.reported stream (s, [])).1 := by rw [hreported]
  rw [hverdict, reports]
  cases hnext : advance stream with
  | error e =>
    have hspent : Spent g (r.root g.start s).1 (Report.calls [])
        [.symbol (.nonterminal g.start), .finish]
        [(r.root g.start s).1, (r.root g.start s).1] := ⟨[_], .nil, rfl, rfl⟩
    simp only [drive, hnext]
    exact concludes_error forall_split_nil hspent (.stopped rfl (refuses_of_advance hnext))
  | ok next =>
    obtain ⟨l, rest⟩ := next
    rw [drive_of_advance hnext]
    have hfinal := run_halts hg (fillsBodies_extends r.reported_extends hr) hnext (s, [])
      (Nat.le_succ _)
    obtain ⟨c, hc, heffect⟩ :=
      run_stopped (spending_step hr) (paired_start ..) (spending_start hnext s) hfinal
    exact hc.concludes hfinal heffect

/-- The stack of the symbols and that of their slots have the same height all along, and they are
the ones that the calls so far lead to: these have used slots in the order of the tree of all slots,
each once, and the others lie on the one stack, with the symbols they were given for on the other,
and the end marker below them. So are the stacks that a recorder is shown. A run that accepts ends
with the end marker alone and has used every slot. Any other run ends with an error, on a stack that
is not empty. -/
theorem drive_spends_slots {ds : Declarations} {lexicon : Lexicon} {options : Options}
    (hds : ds.names.Nodup) (hg : resolve ds lexicon options = .ok g) (hr : r.FillsBodies)
    (stream : List Pull) (s : σ) :
    let root := (r.root g.start s).1
    let log := reports g g.table r stream s
    drive g g.table r.reported stream (s, []) =
        ((drive g g.table r stream s).1, (drive g g.table r stream s).2, log) ∧
      (∀ l rest, advance stream = .ok (l, rest) → ∀ n stack slots,
        let outcome := run g g.table r.reported n (start g r.reported l rest (s, []))
        outcome.stacks? = some (stack, slots) → stack.length = slots.length ∧
          ∃ tree used unused,
            Tended g root (Report.calls outcome.record.2) stack slots tree used unused) ∧
      (∀ before report after, log = before ++ report :: after → ∀ stack ∈ report.stack?,
        ∃ slots tree used unused, stack.length = slots.length ∧
          Tended g root (Report.calls before) stack slots tree used unused) ∧
      ((drive g g.table r stream s).1 = .ok () →
        (∃ before l, log = before ++ [Report.step [.finish] l .accept]) ∧
          ∃ tree used, Tended g root (Report.calls log) [.finish] [root] tree used []) ∧
      ∀ e, (drive g g.table r stream s).1 = .error e →
        ∃ before stack, log = before ++ [.reject stack e] ∧ stack ≠ [] ∧
          Fails g stream before stack e := by
  intro root log
  obtain ⟨hlog, haccepted, hrejected⟩ :=
    concludes_reports (WellFormed.of_resolve hds hg) hr stream s
  refine ⟨drive_reported stream s, ?_, ?_, fun h => ?_, fun e h => ?_⟩
  · intro l rest hnext n stack slots outcome hstacks
    have hspent := spent_run hr hnext s hstacks
    exact ⟨hspent.length_eq, hspent.tended⟩
  · intro before report after heq stack hstack
    obtain ⟨slots, hspent⟩ := hlog before report after heq stack hstack
    obtain ⟨tree, used, unused, htended⟩ := hspent.tended
    exact ⟨slots, tree, used, unused, hspent.length_eq, htended⟩
  · obtain ⟨before, l, hlast⟩ := haccepted h
    refine ⟨⟨before, l, hlast⟩, ?_⟩
    obtain ⟨slots, hspent⟩ := hlog before _ [] hlast _ rfl
    obtain ⟨tree, used, unused, htended⟩ := hspent.tended
    have hcalls : Report.calls log = Report.calls before := by
      simp only [log, hlast, Report.calls_append, Report.calls_cons_step, Report.calls_nil,
        List.append_nil]
    have hunused : unused = [] := by simpa using htended.entries_eq
    have hslots : slots = [root] := by simpa [hunused] using htended.slots_eq
    rw [hcalls, ← hslots]
    exact ⟨tree, used, hunused ▸ htended⟩
  · obtain ⟨before, stack, hlast, hwhy⟩ := hrejected e h
    refine ⟨before, stack, hlast, ?_, hwhy⟩
    obtain ⟨slots, rest, -, hstack, -⟩ := hlog before _ [] hlast stack rfl
    rw [hstack]
    exact List.append_ne_nil_of_right_ne_nil _ (List.cons_ne_nil _ _)

theorem drive_spends_slots_onePair :
    (Journal.recorder none).FillsBodies ∧
      (∃ tree used, Tended parens 0
        (Report.calls (reports parens parens.table (Journal.recorder none) onePair {}))
        [.finish] [0] tree used []) ∧
      ∃ tree used unused, Tended parens 0
        [.expand 0 ⟨0, [.terminal 0, .nonterminal 0, .terminal 1, .nonterminal 0]⟩
          (.ok [1, 2, 3, 4]), .shift 1 ⟨"open", "(", "(", 0, 1⟩]
        [.symbol (.nonterminal 0), .symbol (.terminal 1), .symbol (.nonterminal 0), .finish]
        [2, 3, 4, 0] tree used unused := by
  have haccepted : (drive parens parens.table (Journal.recorder none) onePair {}).1 = .ok () := by
    decide +kernel
  have hspends :=
    drive_spends_slots (by decide) resolve_parens (Journal.fillsBodies none) onePair {}
  refine ⟨Journal.fillsBodies none, (hspends.2.2.2.1 haccepted).2, ?_⟩
  exact (hspends.2.1 _ _ rfl 2 _ _ rfl).2

end Machine

end TopDown
