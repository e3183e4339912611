import TopDown.Proofs.Analysis.Follow
import TopDown.Table.Strategy

/-!
# What a prediction table holds

* `Cell.isBefore` is a strict order of places; `Table.Ordered` : the cells of a table ascend in it;
* `Table.claimants` : the productions that claim a place; `claimants_claim` : what a claim changes;
* `claimants_build` : in the table of a grammar a place is claimed by the productions that are to
  be predicted there, each once, in order;
* `Grammar.Selects`, `mem_claims_of` : these are told by the FIRST and FOLLOW sets;
* `predict_table`, `predict_table_of_selects` : what is predicted has no rival, and without
  conflicts all that is to be predicted is;
* `Grammar.Selects.unique` : without conflicts a lookahead selects one production.
-/

namespace TopDown

/-! ## The order of places -/

section Order

variable {a b c : Nat} {x y z : Lookahead}

/-- Whether nonterminal `a` under `x` comes before nonterminal `b` under `y`. -/
def Place.Before (a : Nat) (x : Lookahead) (b : Nat) (y : Lookahead) : Prop :=
  a < b ∨ a = b ∧ x.before y = true

theorem Cell.isBefore_iff {c : Cell} :
    c.isBefore a x = true ↔ Place.Before c.nonterminal c.lookahead a x := by
  simp [Cell.isBefore, Place.Before]

theorem Lookahead.before_irrefl : x.before x = false := by
  cases x <;> simp [Lookahead.before]

theorem Lookahead.before_trans (h : x.before y = true) (h' : y.before z = true) :
    x.before z = true := by
  cases x <;> cases y <;> cases z <;> simp_all [Lookahead.before]
  omega

theorem Lookahead.before_total (h : x ≠ y) : x.before y = true ∨ y.before x = true := by
  cases x <;> cases y <;> simp_all [Lookahead.before]

theorem Place.before_irrefl : ¬ Place.Before a x a x := by
  rintro (h | ⟨-, h⟩)
  · omega
  · rw [Lookahead.before_irrefl] at h
    cases h

theorem Place.before_trans (h : Place.Before a x b y) (h' : Place.Before b y c z) :
    Place.Before a x c z := by
  rcases h with h | ⟨rfl, h⟩
  · rcases h' with h' | ⟨rfl, -⟩
    · exact Or.inl (h.trans h')
    · exact Or.inl h
  · rcases h' with h' | ⟨rfl, h'⟩
    · exact Or.inl h'
    · exact Or.inr ⟨rfl, Lookahead.before_trans h h'⟩

theorem Place.before_total (h : ¬ (a = b ∧ x = y)) :
    Place.Before a x b y ∨ Place.Before b y a x := by
  rcases Nat.lt_trichotomy a b with hab | rfl | hab
  · exact Or.inl (Or.inl hab)
  · rcases Lookahead.before_total fun hxy => h ⟨rfl, hxy⟩ with hxy | hxy
    · exact Or.inl (Or.inr ⟨rfl, hxy⟩)
    · exact Or.inr (Or.inr ⟨rfl, hxy⟩)
  · exact Or.inr (Or.inl hab)

end Order

namespace Table

/-! ## Claims -/

/-- Cells that ascend. -/
def AscendingCells (cells : List Cell) : Prop :=
  cells.Pairwise fun c d => Place.Before c.nonterminal c.lookahead d.nonterminal d.lookahead

/-- The productions that claim a place. -/
def claimantsIn (cells : List Cell) (a : Nat) (x : Lookahead) : List Nat :=
  ((cells.find? fun c => c.nonterminal = a ∧ c.lookahead = x).map Cell.productions).getD []

def Ordered (t : Table) : Prop := AscendingCells t.cells

def claimants (t : Table) (a : Nat) (x : Lookahead) : List Nat := claimantsIn t.cells a x

variable {cells : List Cell} {a b p : Nat} {x y : Lookahead}

theorem claimantsIn_cons {c : Cell} :
    claimantsIn (c :: cells) a x =
      if c.nonterminal = a ∧ c.lookahead = x then c.productions else claimantsIn cells a x := by
  unfold claimantsIn
  rw [List.find?_cons]
  split
  · rename_i h
    rw [if_pos (of_decide_eq_true h)]
    rfl
  · rename_i h
    rw [if_neg (of_decide_eq_false h)]

/-- Nothing is claimed at a place that all cells are behind. -/
theorem claimantsIn_of_before
    (h : ∀ c ∈ cells, Place.Before a x c.nonterminal c.lookahead) : claimantsIn cells a x = [] := by
  unfold claimantsIn
  rw [List.find?_eq_none.2]
  · rfl
  · intro c hc hcell
    obtain ⟨rfl, rfl⟩ := of_decide_eq_true hcell
    exact Place.before_irrefl (h c hc)

/-- The cells of a list after a claim are its cells, and the cell of the claim. -/
theorem place_of_mem_claimIn {d : Cell} (h : d ∈ claimIn a x p cells) :
    (d.nonterminal = a ∧ d.lookahead = x) ∨
      ∃ c ∈ cells, c.nonterminal = d.nonterminal ∧ c.lookahead = d.lookahead := by
  induction cells with
  | nil =>
    cases List.mem_singleton.1 h
    exact Or.inl ⟨rfl, rfl⟩
  | cons c cs ih =>
    unfold claimIn at h
    split at h
    · rename_i hc
      rcases List.mem_cons.1 h with rfl | h
      · refine Or.inl ?_
        split <;> exact hc
      · exact Or.inr ⟨d, List.mem_cons_of_mem _ h, rfl, rfl⟩
    · split at h
      · rcases List.mem_cons.1 h with rfl | h
        · exact Or.inr ⟨d, List.mem_cons_self, rfl, rfl⟩
        · rcases ih h with h | ⟨e, he, h⟩
          · exact Or.inl h
          · exact Or.inr ⟨e, List.mem_cons_of_mem _ he, h⟩
      · rcases List.mem_cons.1 h with rfl | h
        · exact Or.inl ⟨rfl, rfl⟩
        · exact Or.inr ⟨d, h, rfl, rfl⟩

/-- All cells are behind a place that is neither that of the first one nor behind it. -/
theorem before_of_not_isBefore {c : Cell} (h : AscendingCells (c :: cells))
    (hne : ¬ (c.nonterminal = a ∧ c.lookahead = x)) (hbefore : ¬ c.isBefore a x = true) :
    ∀ d ∈ c :: cells, Place.Before a x d.nonterminal d.lookahead := by
  rw [Cell.isBefore_iff] at hbefore
  have hc := (Place.before_total hne).resolve_left hbefore
  intro d hd
  rcases List.mem_cons.1 hd with rfl | hd
  · exact hc
  · exact Place.before_trans hc ((List.pairwise_cons.1 h).1 d hd)

theorem ascendingCells_claimIn (h : AscendingCells cells) :
    AscendingCells (claimIn a x p cells) := by
  induction cells with
  | nil => exact List.pairwise_singleton _ _
  | cons c cs ih =>
    obtain ⟨hc, hcs⟩ := List.pairwise_cons.1 h
    unfold claimIn
    split
    · refine List.pairwise_cons.2 ⟨fun d hd => ?_, hcs⟩
      split <;> exact hc d hd
    · rename_i hne
      split
      · rename_i hbefore
        refine List.pairwise_cons.2 ⟨fun d hd => ?_, ih hcs⟩
        rcases place_of_mem_claimIn hd with ⟨hda, hdx⟩ | ⟨e, he, hea, hex⟩
        · rw [hda, hdx]
          exact Cell.isBefore_iff.1 hbefore
        · rw [← hea, ← hex]
          exact hc e he
      · rename_i hbefore
        exact List.pairwise_cons.2 ⟨before_of_not_isBefore h hne hbefore, h⟩

theorem claimed_claimIn (h : ∀ c ∈ cells, c.productions ≠ []) :
    ∀ c ∈ claimIn a x p cells, c.productions ≠ [] := by
  induction cells with
  | nil =>
    intro c hc
    cases List.mem_singleton.1 hc
    exact List.cons_ne_nil p []
  | cons d cs ih =>
    obtain ⟨hd, hcs⟩ := List.forall_mem_cons.1 h
    unfold claimIn
    split
    · refine List.forall_mem_cons.2 ⟨?_, hcs⟩
      split
      · exact hd
      · exact List.append_ne_nil_of_right_ne_nil _ (List.cons_ne_nil p [])
    · split
      · exact List.forall_mem_cons.2 ⟨hd, ih hcs⟩
      · exact List.forall_mem_cons.2 ⟨List.cons_ne_nil p [], h⟩

/-- A claim adds the production to its place, unless it is there, and changes nothing else. -/
theorem claimantsIn_claimIn (h : AscendingCells cells) :
    claimantsIn (claimIn a x p cells) b y =
      if b = a ∧ y = x then
        (if p ∈ claimantsIn cells a x then claimantsIn cells a x else claimantsIn cells a x ++ [p])
      else claimantsIn cells b y := by
  induction cells with
  | nil =>
    simp only [claimIn, claimantsIn_cons, eq_comm (a := a), eq_comm (a := x)]
    rfl
  | cons c cs ih =>
    have hcs := (List.pairwise_cons.1 h).2
    unfold claimIn
    split
    · rename_i heq
      obtain ⟨rfl, rfl⟩ := heq
      by_cases hby : b = c.nonterminal ∧ y = c.lookahead
      · obtain ⟨rfl, rfl⟩ := hby
        simp only [claimantsIn_cons, and_self, if_true]
        split <;> simp
      · have hby' : ¬ (c.nonterminal = b ∧ c.lookahead = y) :=
          fun h => hby ⟨h.1.symm, h.2.symm⟩
        rw [if_neg hby, claimantsIn_cons, claimantsIn_cons, if_neg hby']
        split <;> rfl
    · rename_i hne
      split
      · rw [claimantsIn_cons, claimantsIn_cons, claimantsIn_cons, if_neg hne, ih hcs]
        by_cases hcb : c.nonterminal = b ∧ c.lookahead = y
        · obtain ⟨rfl, rfl⟩ := hcb
          simp [hne]
        · simp [hcb]
      · rename_i hbefore
        have hnone : claimantsIn (c :: cs) a x = [] :=
          claimantsIn_of_before (before_of_not_isBefore h hne hbefore)
        rw [hnone, claimantsIn_cons]
        simp only [eq_comm (a := a), eq_comm (a := x)]
        rfl

variable {t : Table}

theorem ordered_claim (h : t.Ordered) : (t.claim a p x).Ordered := ascendingCells_claimIn h

theorem claimants_claim (h : t.Ordered) :
    (t.claim a p x).claimants b y =
      if b = a ∧ y = x then
        (if p ∈ t.claimants a x then t.claimants a x else t.claimants a x ++ [p])
      else t.claimants b y := claimantsIn_claimIn h

/-- What every claim keeps holds after many of them. -/
theorem claimAll_invariant {P : Table → Prop} (hP : ∀ t a p x, P t → P (t.claim a p x))
    (xs : List Lookahead) (h : P t) : P (xs.foldl (fun t x => t.claim a p x) t) := by
  induction xs generalizing t with
  | nil => exact h
  | cons x xs ih => exact ih (hP t a p x h)

theorem ordered_claimAll (xs : List Lookahead) (h : t.Ordered) :
    (xs.foldl (fun t x => t.claim a p x) t).Ordered :=
  claimAll_invariant (fun _ _ _ _ => ordered_claim) xs h

/-- A production that claims several places of its row is added once to each. -/
theorem claimants_claimAll (xs : List Lookahead) (h : t.Ordered) (hp : p ∉ t.claimants b y) :
    (xs.foldl (fun t x => t.claim a p x) t).claimants b y =
      t.claimants b y ++ if b = a ∧ y ∈ xs then [p] else [] := by
  -- once added, later claims of the same place change nothing
  have hstays : ∀ (xs : List Lookahead) (t : Table), t.Ordered → p ∈ t.claimants b y →
      (xs.foldl (fun t x => t.claim a p x) t).claimants b y = t.claimants b y := by
    intro xs
    induction xs with
    | nil => exact fun _ _ _ => rfl
    | cons x xs ih =>
      intro t h hp
      have hx : (t.claim a p x).claimants b y = t.claimants b y := by
        rw [claimants_claim h]
        split
        · rename_i hbx
          obtain ⟨rfl, rfl⟩ := hbx
          rw [if_pos hp]
        · rfl
      rw [List.foldl_cons, ih _ (ordered_claim h) (by rw [hx]; exact hp), hx]
  induction xs generalizing t with
  | nil => simp
  | cons x xs ih =>
    rw [List.foldl_cons]
    have hx := claimants_claim (a := a) (p := p) (x := x) (b := b) (y := y) h
    by_cases hbx : b = a ∧ y = x
    · obtain ⟨rfl, rfl⟩ := hbx
      rw [if_pos ⟨rfl, rfl⟩, if_neg hp] at hx
      rw [hstays xs _ (ordered_claim h) (by rw [hx]; simp), hx, if_pos ⟨rfl, List.mem_cons_self⟩]
    · rw [if_neg hbx] at hx
      rw [ih (ordered_claim h) (by rw [hx]; exact hp), hx]
      congr 1
      apply if_congr _ rfl rfl
      rw [List.mem_cons]
      exact ⟨fun h => ⟨h.1, Or.inr h.2⟩, fun h => ⟨h.1, h.2.resolve_left fun hy => hbx ⟨h.1, hy⟩⟩⟩

/-! ## The table of a grammar -/

section Build

variable {g : Grammar} {analysis : Analysis}

/-- Lets all productions of a numbered list claim their places. -/
def claimNumbered (analysis : Analysis) (t : Table) (ps : List (Production × Nat)) : Table :=
  ps.foldl (fun t (p, id) => (claims analysis p).foldl (fun t x => t.claim p.lhs id x) t) t

theorem claimNumbered_invariant {P : Table → Prop} (hP : ∀ t a p x, P t → P (t.claim a p x))
    (ps : List (Production × Nat)) (h : P t) : P (claimNumbered analysis t ps) := by
  induction ps generalizing t with
  | nil => exact h
  | cons p ps ih => exact ih (claimAll_invariant hP _ h)

theorem claimants_claimNumbered (ps : List (Production × Nat)) (h : t.Ordered)
    (hnodup : (ps.map Prod.snd).Nodup) (hnew : ∀ id ∈ ps.map Prod.snd, id ∉ t.claimants a x) :
    (claimNumbered analysis t ps).claimants a x = t.claimants a x ++
      (ps.filter fun (p, _) => p.lhs = a ∧ x ∈ claims analysis p).map Prod.snd := by
  induction ps generalizing t with
  | nil => simp [claimNumbered]
  | cons q ps ih =>
    obtain ⟨q, id⟩ := q
    obtain ⟨hid, hnodup⟩ := List.nodup_cons.1 hnodup
    have hq := claimants_claimAll (a := q.lhs) (b := a) (y := x) (claims analysis q) h
      (hnew id List.mem_cons_self)
    have hstep := ih (t := (claims analysis q).foldl (fun t x => t.claim q.lhs id x) t)
      (ordered_claimAll _ h) hnodup
    rw [hq] at hstep
    refine (hstep fun id' hid' => ?_).trans ?_
    · rw [List.mem_append, not_or]
      refine ⟨hnew id' (List.mem_cons_of_mem _ hid'), fun hmem => ?_⟩
      split at hmem
      · cases List.mem_singleton.1 hmem
        exact hid hid'
      · cases hmem
    · rw [List.append_assoc]
      congr 1
      rw [List.filter_cons]
      by_cases hqa : a = q.lhs ∧ x ∈ claims analysis q
      · rw [if_pos hqa, if_pos (decide_eq_true ⟨hqa.1.symm, hqa.2⟩)]
        rfl
      · rw [if_neg hqa, if_neg (fun hd => hqa ⟨(of_decide_eq_true hd).1.symm,
          (of_decide_eq_true hd).2⟩)]
        rfl

theorem ordered_empty : (⟨[]⟩ : Table).Ordered := List.Pairwise.nil

theorem ordered_build (g : Grammar) (analysis : Analysis) : (build g analysis).Ordered :=
  claimNumbered_invariant (fun _ _ _ _ => ordered_claim) g.productions.zipIdx ordered_empty

/-- There is no cell that nothing claims. -/
theorem claimed_build (g : Grammar) (analysis : Analysis) :
    ∀ c ∈ (build g analysis).cells, c.productions ≠ [] :=
  claimNumbered_invariant (P := fun t => ∀ c ∈ t.cells, c.productions ≠ [])
    (fun _ _ _ _ => claimed_claimIn) g.productions.zipIdx fun _ hc => absurd hc List.not_mem_nil

/-- A place is claimed by the productions that are to be predicted there, each once, in order. -/
theorem claimants_build :
    (build g analysis).claimants a x =
      (g.productions.zipIdx.filter fun (p, _) => p.lhs = a ∧ x ∈ claims analysis p).map
        Prod.snd := by
  have hnodup : (g.productions.zipIdx.map Prod.snd).Nodup := by
    rw [List.zipIdx_map_snd]
    exact List.nodup_range'
  exact claimants_claimNumbered g.productions.zipIdx ordered_empty hnodup
    fun _ _ => List.not_mem_nil

theorem mem_claimants_build {id : Nat} :
    id ∈ (build g analysis).claimants a x ↔
      ∃ p, g.productions[id]? = some p ∧ p.lhs = a ∧ x ∈ claims analysis p := by
  rw [claimants_build]
  simp only [List.mem_map, List.mem_filter, decide_eq_true_eq, Prod.exists,
    List.mem_zipIdx_iff_getElem?, exists_eq_right]

end Build

/-- In order, every cell is the one that is found at its place. -/
theorem claimants_of_mem {c : Cell} (h : t.Ordered) (hc : c ∈ t.cells) :
    t.claimants c.nonterminal c.lookahead = c.productions := by
  unfold Ordered AscendingCells at h
  unfold claimants
  generalize t.cells = cells at h hc
  induction cells with
  | nil => cases hc
  | cons d cs ih =>
    obtain ⟨hd, hcs⟩ := List.pairwise_cons.1 h
    rw [claimantsIn_cons]
    rcases List.mem_cons.1 hc with rfl | hc
    · rw [if_pos ⟨rfl, rfl⟩]
    · rw [if_neg, ih hcs hc]
      intro hplace
      have hbefore := hd c hc
      rw [hplace.1, hplace.2] at hbefore
      exact Place.before_irrefl hbefore

theorem exists_cell_of_claimants (h : t.claimants a x ≠ []) :
    ∃ c ∈ t.cells, c.nonterminal = a ∧ c.lookahead = x := by
  unfold claimants claimantsIn at h
  cases hc : t.cells.find? fun c => decide (c.nonterminal = a ∧ c.lookahead = x) with
  | none =>
    rw [hc] at h
    exact absurd rfl h
  | some c =>
    have hplace := List.find?_some hc
    exact ⟨c, List.mem_of_find?_eq_some hc, of_decide_eq_true hplace⟩

/-! ## Prediction -/

theorem predict_eq_some {id : Nat} : t.predict a x = some id ↔ t.claimants a x = [id] := by
  unfold predict claimants claimantsIn cell?
  cases h : t.cells.find? fun c => decide (c.nonterminal = a ∧ c.lookahead = x) with
  | none => simp
  | some c =>
    obtain ⟨b, y, ids⟩ := c
    match ids with
    | [] => simp
    | [p] => simp
    | p :: q :: ids => simp

/-- Where no cell is in conflict, no place has two claimants. -/
theorem length_claimants_le (h : t.isDeterministic = true) : (t.claimants a x).length ≤ 1 := by
  unfold claimants claimantsIn
  cases hc : t.cells.find? fun c => decide (c.nonterminal = a ∧ c.lookahead = x) with
  | none => simp
  | some c =>
    simp only [isDeterministic, conflicts, List.isEmpty_iff, List.filter_eq_nil_iff] at h
    simpa using h c (List.mem_of_find?_eq_some hc)

/-- Where no cell is in conflict, whatever claims a place is predicted there. -/
theorem predict_of_mem_claimants {id : Nat} (h : t.isDeterministic = true)
    (hid : id ∈ t.claimants a x) : t.predict a x = some id := by
  have hlength := length_claimants_le (a := a) (x := x) h
  rw [predict_eq_some]
  match hc : t.claimants a x with
  | [] => simp [hc] at hid
  | [id'] =>
    rw [hc, List.mem_singleton] at hid
    rw [hid]
  | _ :: _ :: _ => simp [hc] at hlength

/-- Where no cell is in conflict, a place is claimed if and only if something is predicted there. -/
theorem isSome_predict_iff (h : t.isDeterministic = true) :
    (t.predict a x).isSome = true ↔ t.claimants a x ≠ [] := by
  rw [Option.isSome_iff_exists]
  constructor
  · rintro ⟨id, hid⟩
    rw [predict_eq_some.1 hid]
    exact List.cons_ne_nil id []
  · intro hne
    obtain ⟨id, hid⟩ := List.exists_mem_of_ne_nil _ hne
    exact ⟨id, predict_of_mem_claimants h hid⟩

/-- In a table in order, what is expected is what a place is claimed under. -/
theorem mem_expected (hordered : t.Ordered) (hclaimed : ∀ c ∈ t.cells, c.productions ≠ []) :
    x ∈ t.expected a ↔ t.claimants a x ≠ [] := by
  rw [expected, List.mem_map]
  constructor
  · rintro ⟨c, hc, rfl⟩
    obtain ⟨hmem, ha⟩ := List.mem_filter.1 hc
    cases of_decide_eq_true ha
    rw [claimants_of_mem hordered hmem]
    exact hclaimed c hmem
  · intro hne
    obtain ⟨c, hc, rfl, rfl⟩ := exists_cell_of_claimants hne
    exact ⟨c, List.mem_filter.2 ⟨hc, decide_eq_true rfl⟩, rfl⟩

/-- The row of a table in order is in order. -/
theorem pairwise_expected (h : t.Ordered) :
    (t.expected a).Pairwise fun x y => x.before y = true := by
  rw [expected, List.pairwise_map]
  refine (List.Pairwise.filter _ h).imp_of_mem fun {c d} hc hd hbefore => ?_
  have hca := of_decide_eq_true (List.mem_filter.1 hc).2
  have hda := of_decide_eq_true (List.mem_filter.1 hd).2
  rcases hbefore with hlt | ⟨-, hbefore⟩
  · omega
  · exact hbefore

end Table

/-! ## Claims by FIRST and FOLLOW -/

/-- A lookahead as a fact of a FOLLOW set. -/
def Lookahead.fact : Lookahead → Option Nat
  | terminal t => some t
  | finish => none

theorem FollowSet.mem_lookaheads {s : FollowSet} {x : Lookahead} :
    x ∈ s.lookaheads ↔ s.has x.fact = true := by
  cases x with
  | terminal t =>
    rw [Lookahead.fact, FollowSet.has_some, FollowSet.lookaheads]
    split <;> simp
  | finish =>
    rw [Lookahead.fact, FollowSet.has_none, FollowSet.lookaheads]
    split <;> simp_all

namespace Grammar

/-- The table of a grammar. -/
def table (g : Grammar) : Table := Table.build g (Analysis.of g)

theorem select_eq (strategy : Strategy) (g : Grammar) : select strategy g =
    if g.table.isDeterministic then .ok (Analysis.of g, g.table)
    else .error ⟨strategy, g.table.conflicts.map (Conflict.ofCell g)⟩ := rfl

theorem ordered_table (g : Grammar) : g.table.Ordered := Table.ordered_build g (Analysis.of g)

/-- The lookahead can follow the nonterminal, by the FOLLOW sets. -/
def Follows (g : Grammar) (a : Nat) (x : Lookahead) : Prop :=
  FollowSet.view.Holds (g.followSets g.firstSets) a x.fact

/-- The production is to be predicted under the lookahead. -/
def Selects (g : Grammar) (p : Production) (x : Lookahead) : Prop :=
  (∃ t, x = .terminal t ∧ (firstOf g.firstSets p.body).has (some t) = true) ∨
    (firstOf g.firstSets p.body).has none = true ∧ g.Follows p.lhs x

variable {g : Grammar} {p : Production} {x : Lookahead} {a id : Nat}

theorem mem_claims_of : x ∈ Table.claims (Analysis.of g) p ↔ g.Selects p x := by
  have hfirst : x ∈ (firstOf g.firstSets p.body).terms.map Lookahead.terminal ↔
      ∃ t, x = .terminal t ∧ (firstOf g.firstSets p.body).has (some t) = true := by
    simp only [List.mem_map, FirstSet.has_some]
    exact ⟨fun ⟨t, ht, hx⟩ => ⟨t, hx.symm, ht⟩, fun ⟨t, hx, ht⟩ => ⟨t, ht, hx.symm⟩⟩
  change x ∈ (firstOf g.firstSets p.body).terms.map Lookahead.terminal ++ _ ↔ _
  rw [List.mem_append, hfirst]
  refine or_congr Iff.rfl ?_
  change x ∈ (if (firstOf g.firstSets p.body).nullable then
    ((g.followSets g.firstSets).getD p.lhs .empty).lookaheads else []) ↔ _
  rw [FirstSet.has_none]
  split
  · rename_i h
    rw [FollowSet.mem_lookaheads, h]
    exact ⟨fun hx => ⟨rfl, hx⟩, fun hx => hx.2⟩
  · rename_i h
    exact ⟨fun hx => absurd hx List.not_mem_nil, fun hx => absurd hx.1 h⟩

/-- What is predicted is to be predicted, and no other production is. -/
theorem predict_table (h : g.table.predict a x = some id) :
    ∃ p, g.productions[id]? = some p ∧ p.lhs = a ∧ g.Selects p x ∧
      ∀ q ∈ g.productions, q.lhs = a → g.Selects q x → q = p := by
  rw [Table.predict_eq_some] at h
  have hmem : ∀ {id'}, (∃ q, g.productions[id']? = some q ∧ q.lhs = a ∧ g.Selects q x) ↔
      id' = id := by
    intro id'
    rw [← List.mem_singleton, ← h, table, Table.mem_claimants_build]
    simp only [mem_claims_of]
  obtain ⟨p, hp, hlhs, hsel⟩ := hmem.2 rfl
  refine ⟨p, hp, hlhs, hsel, fun q hq hqa hqx => ?_⟩
  obtain ⟨id', hid'⟩ := List.mem_iff_getElem?.1 hq
  cases hmem.1 ⟨q, hid', hqa, hqx⟩
  exact Option.some.inj (hid'.symm.trans hp)

/-- Without conflicts, what is to be predicted is predicted. -/
theorem predict_table_of_selects (hg : g.table.isDeterministic = true)
    (hp : g.productions[id]? = some p) (hx : g.Selects p x) :
    g.table.predict p.lhs x = some id :=
  Table.predict_of_mem_claimants hg
    (Table.mem_claimants_build.2 ⟨p, hp, rfl, mem_claims_of.2 hx⟩)

/-- Without conflicts a lookahead selects one production of a nonterminal, and by one number. -/
theorem Selects.id_unique (hg : g.table.isDeterministic = true) {q : Production} {id' : Nat}
    (hp : g.productions[id]? = some p) (hq : g.productions[id']? = some q) (hlhs : p.lhs = q.lhs)
    (hpx : g.Selects p x) (hqx : g.Selects q x) : id = id' := by
  have hid := predict_table_of_selects hg hp hpx
  have hid' := predict_table_of_selects hg hq hqx
  rw [hlhs, hid'] at hid
  exact (Option.some.inj hid).symm

theorem Selects.unique (hg : g.table.isDeterministic = true) {q : Production}
    (hp : p ∈ g.productions) (hq : q ∈ g.productions) (hlhs : p.lhs = q.lhs)
    (hpx : g.Selects p x) (hqx : g.Selects q x) : p = q := by
  obtain ⟨id, hid⟩ := List.mem_iff_getElem?.1 hp
  obtain ⟨id', hid'⟩ := List.mem_iff_getElem?.1 hq
  cases Selects.id_unique hg hid hid' hlhs hpx hqx
  exact Option.some.inj (hid.symm.trans hid')

end Grammar

end TopDown
