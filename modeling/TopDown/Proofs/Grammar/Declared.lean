import Mathlib.Data.List.Nodup
import TopDown.Proofs.Grammar.WellFormed
import TopDown.Proofs.Text.Lines

/-!
# The order of names and productions

Names are numbered at their first appearance, those of terminals in the rules of a lexicon, those
of nonterminals at the heads of the lines of a grammar text. Productions stand in the order of
their left-hand sides, since they are read off the declarations one after the other.

* `Grammar.heads` : the left-hand sides of the production lines of a text, in order;
* `Declarations.of_parse` : every left-hand side of a text is declared once, at its first
  appearance, and has an alternative;
* `Grammar.nonterminal?_of_mem_zipIdx` : the number of a declared name;
* `Grammar.lhs_of_resolve` : the left-hand sides of the productions, in order;
* `Grammar.Declared`, `Declared.of_resolve` : what a grammar text and a lexicon say of the grammar
  that they are resolved to.
-/

namespace TopDown

namespace Grammar

open Text

/-! ## Alternatives -/

theorem prependPart_ne_nil (t : List Char) (parts : List (List Char)) :
    prependPart t parts ≠ [] := by
  cases parts <;> exact List.cons_ne_nil _ _

/-- However a body is cut, there is at least one part. -/
theorem splitAlternatives_ne_nil {s : List Char} {parts : List (List Char)}
    (h : splitAlternatives s = some parts) : parts ≠ [] := by
  unfold splitAlternatives at h
  split at h
  · cases h
    exact List.cons_ne_nil _ _
  · split at h
    · obtain ⟨_, _, rfl⟩ := Option.map_eq_some_iff.1 h
      exact List.cons_ne_nil _ _
    · split at h
      · obtain ⟨_, _, rfl⟩ := Option.map_eq_some_iff.1 h
        exact prependPart_ne_nil _ _
      · split at h
        · cases h
        · obtain ⟨_, _, rfl⟩ := Option.map_eq_some_iff.1 h
          exact prependPart_ne_nil _ _

theorem alternativesOf_ne_nil {body : List Char} {texts : List String}
    (h : alternativesOf body = .ok texts) : texts ≠ [] := by
  unfold alternativesOf at h
  split at h
  · cases h
  · rename_i parts hparts
    simp only at h
    split at h
    · cases h
    · cases h
      simpa using splitAlternatives_ne_nil hparts

/-! ## Declarations -/

/-- The left-hand side of a production line. -/
def head? (raw : List Char) : Option String :=
  match Line.read raw with
  | .ok (.production lhs _) => some lhs
  | _ => none

/-- The left-hand sides of the production lines of a text, in order. -/
def heads (text : String) : List String := (lines text.toList).filterMap head?

namespace Declarations

/-- Every left-hand side has an alternative. -/
def Filled (ds : Declarations) : Prop := ∀ d ∈ ds, d.alternatives ≠ []

theorem names_declare (ds : Declarations) (lhs : String) (line : Nat) :
    (ds.declare lhs line).names = addNew ds.names lhs := by
  have hany : ds.any (·.lhs = lhs) = true ↔ lhs ∈ ds.names := by
    simp [names]
  unfold declare addNew
  split
  · rw [if_pos (hany.1 ‹_›)]
  · rw [if_neg fun h => ‹¬ _› (hany.2 h), names, List.map_append]
    rfl

theorem names_extend (ds : Declarations) (lhs : String) (as : List Alternative) :
    (ds.extend lhs as).names = ds.names := by
  rw [names, extend, List.map_map]
  refine List.map_congr_left fun d _ => ?_
  rw [Function.comp_apply]
  split <;> rfl

/-- Only a left-hand side that is new lacks alternatives, and it is given some. -/
theorem filled_extend {ds : Declarations} {lhs : String} {as : List Alternative} (has : as ≠ [])
    (h : ∀ d ∈ ds, d.lhs ≠ lhs → d.alternatives ≠ []) : (ds.extend lhs as).Filled := by
  intro d hd
  obtain ⟨d', hd', rfl⟩ := List.mem_map.1 hd
  split
  · exact fun hnil => has (List.append_eq_nil_iff.1 hnil).2
  · exact h d' hd' ‹_›

theorem lhs_of_mem_declare {ds : Declarations} {lhs : String} {line : Nat} {d : Declaration}
    (h : d ∈ ds.declare lhs line) : d ∈ ds ∨ d.lhs = lhs := by
  unfold declare at h
  split at h
  · exact .inl h
  · rcases List.mem_append.1 h with h | h
    · exact .inl h
    · cases List.mem_singleton.1 h
      exact .inr rfl

theorem Reading.readNumbered_eq_ok {r r' : Reading} {line : Nat × List Char} :
    r.readNumbered line = .ok r' ↔ r.readLine line.1 line.2 = .ok r' := by
  unfold Reading.readNumbered
  cases r.readLine line.1 line.2 <;> simp

/-- A body adds alternatives to a left-hand side and no name. -/
theorem Reading.add_eq_ok {r r' : Reading} {n : Nat} {lhs : String} {body : List Char}
    (h : r.add n lhs body = .ok r') :
    ∃ as ≠ [], r' = ⟨r.declarations.extend lhs as, some lhs⟩ := by
  unfold Reading.add at h
  split at h
  · cases h
  · rename_i texts htexts
    cases h
    exact ⟨_, by simpa using alternativesOf_ne_nil htexts, rfl⟩

/-- One line adds the left-hand side that it names, if it is new, and leaves none without an
alternative. -/
theorem Reading.readLine_eq_ok {r r' : Reading} {n : Nat} {raw : List Char}
    (h : r.readLine n raw = .ok r') :
    r'.declarations.names = (head? raw).toList.foldl addNew r.declarations.names ∧
      (r.declarations.Filled → r'.declarations.Filled) := by
  unfold Reading.readLine at h
  unfold head?
  cases hline : Line.read raw with
  | error fault =>
    rw [hline] at h
    cases h
  | ok line =>
    rw [hline] at h
    cases line with
    | skip =>
      cases h
      exact ⟨rfl, id⟩
    | production lhs body =>
      obtain ⟨as, has, hr'⟩ := Reading.add_eq_ok h
      rw [hr', names_extend, names_declare]
      refine ⟨rfl, fun hfilled => filled_extend has fun d hd hne => ?_⟩
      exact hfilled d ((lhs_of_mem_declare hd).resolve_right hne)
    | continuation body =>
      simp only at h
      split at h
      · cases h
      · obtain ⟨as, has, hr'⟩ := Reading.add_eq_ok h
        rw [hr', names_extend]
        exact ⟨rfl, fun hfilled => filled_extend has fun d hd _ => hfilled d hd⟩

/-- All lines together add the left-hand sides that they name. -/
theorem Reading.readLines_eq_ok {ls : List (Nat × List Char)} {r r' : Reading}
    (h : ls.foldlM Reading.readNumbered r = .ok r') :
    r'.declarations.names = (ls.filterMap (head? ·.2)).foldl addNew r.declarations.names ∧
      (r.declarations.Filled → r'.declarations.Filled) := by
  induction ls generalizing r with
  | nil =>
    cases h
    exact ⟨rfl, id⟩
  | cons line ls ih =>
    obtain ⟨r₁, hline, hls⟩ := foldlM_cons_eq_ok.1 h
    obtain ⟨hnames, hfilled⟩ := Reading.readLine_eq_ok (Reading.readNumbered_eq_ok.1 hline)
    obtain ⟨hnames', hfilled'⟩ := ih hls
    refine ⟨?_, hfilled' ∘ hfilled⟩
    rw [hnames', hnames, ← List.foldl_append]
    cases hhead : head? line.2 <;> simp [hhead]

theorem parse_eq_ok_iff {text : String} {ds : Declarations} : Declarations.parse text = .ok ds ↔
    ∃ r, (numberedLines text.toList).foldlM Reading.readNumbered ⟨[], none⟩ = .ok r ∧
      r.declarations = ds := by
  unfold Declarations.parse
  cases (numberedLines text.toList).foldlM Reading.readNumbered ⟨[], none⟩ <;> simp

/-- Every left-hand side of a text is declared at its first appearance and has an alternative. -/
theorem of_parse {text : String} {ds : Declarations} (h : Declarations.parse text = .ok ds) :
    ds.names = (heads text).foldl addNew [] ∧ ds.Filled := by
  obtain ⟨r, hr, rfl⟩ := parse_eq_ok_iff.1 h
  obtain ⟨hnames, hfilled⟩ := Reading.readLines_eq_ok hr
  refine ⟨?_, hfilled fun d hd => absurd hd List.not_mem_nil⟩
  rw [hnames, heads, ← map_snd_numberedLines, List.filterMap_map]
  rfl

/-- No left-hand side of a text is declared twice. -/
theorem nodup_names_of_parse {text : String} {ds : Declarations}
    (h : Declarations.parse text = .ok ds) : ds.names.Nodup :=
  (of_parse h).1 ▸ nodup_foldl_addNew _ List.nodup_nil

end Declarations

/-! ## Productions -/

variable {ds : Declarations} {x : Lexicon} {options : Options} {g : Grammar}

/-- The left-hand sides of the productions: each number once for every alternative. -/
theorem lhs_of_resolve (h : resolve ds x options = .ok g) :
    g.productions.map Production.lhs =
      ds.zipIdx.flatMap fun (d, id) => d.alternatives.map fun _ => id := by
  unfold resolve at h
  split at h
  · cases h
  simp only at h
  split at h
  · rename_i productions hwork
    cases h
    have hlhs := (mapM_eq_ok.1 hwork).imp fun w p hp =>
      (knows_resolveAlternative (Vocabulary.sound_ofGrammar _ _ _) hp).1
    have hmap : productions.map Production.lhs =
        (ds.zipIdx.flatMap fun (d, id) => d.alternatives.map fun a => (d, id, a)).map (·.2.1) := by
      rw [← List.forall₂_eq_eq_eq, List.forall₂_map_left_iff, List.forall₂_map_right_iff]
      exact hlhs.flip
    rw [hmap, List.map_flatMap]
    simp only [List.map_map, Function.comp_def]
  · cases h

/-- The productions of a left-hand side stand together, in the order of the left-hand sides. -/
theorem grouped_of_resolve (h : resolve ds x options = .ok g) :
    (g.productions.map Production.lhs).Pairwise (· ≤ ·) := by
  have hids : ds.zipIdx.Pairwise (·.2 < ·.2) := by
    rw [← List.pairwise_map, List.zipIdx_map_snd]
    exact List.pairwise_lt_range'
  rw [lhs_of_resolve h, List.pairwise_flatMap]
  refine ⟨fun d _ => ?_, hids.imp fun {d d'} hlt => ?_⟩
  · simp
  · simp only [List.mem_map]
    rintro id ⟨_, _, rfl⟩ id' ⟨_, _, rfl⟩
    exact Nat.le_of_lt hlt

theorem nonterminals_of_resolve (hds : ds.names.Nodup) (h : resolve ds x options = .ok g) :
    g.nonterminals = ds.names := by
  obtain ⟨-, _, rfl, -⟩ := resolve_eq_ok h
  exact nonterminals_frame hds x options

/-- The number of a declared name is the position of its declaration. -/
theorem nonterminal?_of_mem_zipIdx (hds : ds.names.Nodup) (h : resolve ds x options = .ok g)
    {d : Declaration} {id : Nat} (hd : (d, id) ∈ ds.zipIdx) : g.nonterminal? d.lhs = some id := by
  rw [nonterminal?, nonterminals_of_resolve hds h]
  refine idxOf?_of_getElem? hds ?_
  rw [Declarations.names, List.getElem?_map, List.mem_zipIdx_iff_getElem?.1 hd]
  rfl

theorem exists_production_of_resolve (h : resolve ds x options = .ok g) (hds : ds.Filled)
    {a : Nat} (ha : a < ds.length) : ∃ p ∈ g.productions, p.lhs = a := by
  have hmem : a ∈ g.productions.map Production.lhs := by
    obtain ⟨alternative, halternative⟩ :=
      List.exists_mem_of_ne_nil _ (hds ds[a] (List.getElem_mem ha))
    rw [lhs_of_resolve h]
    have hd : (ds[a], a) ∈ ds.zipIdx :=
      List.mk_mem_zipIdx_iff_getElem?.2 (List.getElem?_eq_getElem ha)
    exact List.mem_flatMap.2 ⟨_, hd, List.mem_map.2 ⟨alternative, halternative, rfl⟩⟩
  exact List.mem_map.1 hmem

/-! ## Terminals -/

theorem terminals_of_resolve (h : resolve ds x options = .ok g) :
    g.terminals = x.terminalNames := by
  obtain ⟨-, _, rfl, -⟩ := resolve_eq_ok h
  exact terminals_frame ds x options

/-- A grammar knows the terminals of its lexicon. -/
theorem exists_terminal? (h : resolve ds x options = .ok g) {r : Rule} {name : String}
    (hr : r ∈ x.scannedRules) (hname : r.terminal? = some name) :
    ∃ id, g.terminal? name = some id := by
  have hmem := x.mem_terminalNames (List.mem_filter.1 hr).1 hname
  rw [← terminals_of_resolve h] at hmem
  exact Option.isSome_iff_exists.1 (List.isSome_idxOf?.2 hmem)

theorem terminal?_terminalName (hg : g.terminals.Nodup) {id : Nat}
    (hid : id < g.terminals.length) : g.terminal? (g.terminalName id) = some id := by
  rw [terminalName, List.getElem?_eq_getElem hid, Option.getD_some]
  exact idxOf?_of_getElem? hg (List.getElem?_eq_getElem hid)

/-- What a lexicon and a grammar text say of the grammar that they are resolved to. -/
structure Declared (g : Grammar) (x : Lexicon) (text : String) : Prop where
  /-- Nonterminals are numbered at their first appearance as a left-hand side. -/
  nonterminals_eq : g.nonterminals = (heads text).eraseDups
  nodup_nonterminals : g.nonterminals.Nodup
  terminals_eq : g.terminals = x.terminalNames
  terminal?_name : ∀ id < g.terminals.length, g.terminal? (g.terminalName id) = some id
  wellFormed : g.WellFormed
  normal : g.Normal
  grouped : (g.productions.map Production.lhs).Pairwise (· ≤ ·)
  exists_production : ∀ a < g.nonterminals.length, ∃ p ∈ g.productions, p.lhs = a

theorem Declared.of_resolve {text : String} (hds : Declarations.parse text = .ok ds)
    (h : resolve ds x options = .ok g) : g.Declared x text := by
  obtain ⟨hnames, hfilled⟩ := Declarations.of_parse hds
  have hnodup := Declarations.nodup_names_of_parse hds
  have hnonterminals := nonterminals_of_resolve hnodup h
  have hterminals := terminals_of_resolve h
  refine ⟨?_, hnonterminals ▸ hnodup, hterminals, fun id hid => ?_, .of_resolve hnodup h,
    .of_resolve h, grouped_of_resolve h, fun a ha => ?_⟩
  · rw [hnonterminals, hnames, foldl_addNew_nil]
  · exact terminal?_terminalName (hterminals ▸ x.nodup_terminalNames) hid
  · rw [hnonterminals, Declarations.names, List.length_map] at ha
    exact exists_production_of_resolve h hfilled ha

end Grammar

end TopDown
