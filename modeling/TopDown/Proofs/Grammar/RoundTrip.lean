import TopDown.Proofs.Grammar.Attribution
import TopDown.Proofs.Grammar.Vocabulary

/-!
# Writing a grammar and resolving it again

The text of a resolved grammar declares the same nonterminals in the same order, so it has the same
vocabulary. In that vocabulary every written piece stands for the symbol that it was written for.

* `flatMap_productionsOf` : the rules of a resolved grammar hold its productions in order;
* `resolve_declarations` : what a grammar is read as is resolved to it, if every body is;
* `emptyName_mem_of_resolve` : no alternative lacks pieces, so an empty production is one that spells
  the empty symbol;
* `Piece.Writes`, `writes_pieceOf` : the pieces of all symbols that occur are read back;
* `resolve_render` : a resolved grammar is read back from the text that it is written as.
-/

namespace TopDown.Grammar

open Text

variable {g : Grammar}

/-! ## Productions -/

theorem normalize_eq_self {body : List Symbol} (h : body = [.empty] ∨ body ≠ [] ∧ .empty ∉ body) :
    normalize body = body := by
  rcases h with rfl | ⟨hne, hempty⟩
  · rfl
  · have hfilter : body.filter (· ≠ .empty) = body := by
      refine List.filter_eq_self.2 fun s hs => ?_
      rw [decide_eq_true_eq]
      rintro rfl
      exact hempty hs
    simp only [normalize, hfilter, List.isEmpty_iff, hne, if_false]

/-- In a sorted list the small elements stand in front of the others. -/
theorem filter_lt_append_filter_not_lt {α : Type} {f : α → Nat} {xs : List α}
    (h : (xs.map f).Pairwise (· ≤ ·)) (n : Nat) :
    xs.filter (f · < n) ++ xs.filter (¬ f · < n) = xs := by
  induction xs with
  | nil => rfl
  | cons x xs ih =>
    rw [List.map_cons, List.pairwise_cons] at h
    by_cases hx : f x < n
    · simp only [List.filter_cons, hx, decide_true, not_true_eq_false, decide_false, if_true,
        Bool.false_eq_true, if_false, List.cons_append, ih h.2]
    · have hall : ∀ y ∈ x :: xs, ¬ f y < n := by
        intro y hy
        rcases List.mem_cons.1 hy with rfl | hy
        · exact hx
        · have hle := h.1 (f y) (List.mem_map_of_mem hy)
          omega
      rw [List.filter_eq_nil_iff.2 (by simpa using hall),
        List.filter_eq_self.2 (by simpa using hall), List.nil_append]

/-- A sorted list is made of its groups. -/
theorem flatMap_filter_eq {α : Type} {f : α → Nat} {xs : List α}
    (h : (xs.map f).Pairwise (· ≤ ·)) {n : Nat} (hlt : ∀ x ∈ xs, f x < n) :
    ((List.range n).flatMap fun i => xs.filter (f · = i)) = xs := by
  induction n generalizing xs with
  | zero =>
    have hnil : xs = [] := List.eq_nil_iff_forall_not_mem.2 fun x hx => Nat.not_lt_zero _ (hlt x hx)
    rw [hnil]
    rfl
  | succ n ih =>
    have hsmall : (xs.filter (f · < n)).Sublist xs := List.filter_sublist
    have hgroups : ((List.range n).flatMap fun i => xs.filter (f · = i)) = xs.filter (f · < n) := by
      rw [← ih (h.sublist (hsmall.map f)) fun x hx => by simpa using (List.mem_filter.1 hx).2]
      refine List.flatMap_congr fun i hi => ?_
      rw [List.filter_filter]
      refine List.filter_congr fun x _ => ?_
      have hi := List.mem_range.1 hi
      grind
    have hlast : xs.filter (f · = n) = xs.filter (¬ f · < n) := by
      refine List.filter_congr fun x hx => ?_
      have hx := hlt x hx
      grind
    rw [List.range_succ, List.flatMap_append, List.flatMap_singleton, hgroups, hlast,
      filter_lt_append_filter_not_lt h]

/-- The productions of a grammar in the order of the rules that they are written in. -/
theorem flatMap_productionsOf (hgrouped : (g.productions.map Production.lhs).Pairwise (· ≤ ·))
    (hlhs : ∀ p ∈ g.productions, p.lhs < g.nonterminals.length) :
    (g.nonterminals.zipIdx.flatMap fun rule => (g.productionsOf rule.2).map Prod.fst) =
      g.productions := by
  have hgroup (id : Nat) : (g.productionsOf id).map Prod.fst =
      g.productions.filter (·.lhs = id) := by
    have hfilter := List.filter_map (f := Prod.fst) (p := fun p : Production => decide (p.lhs = id))
      (l := g.productions.zipIdx)
    rw [List.zipIdx_map_fst] at hfilter
    exact hfilter.symm
  have hids : (g.nonterminals.zipIdx.flatMap fun rule => g.productions.filter (·.lhs = rule.2)) =
      (g.nonterminals.zipIdx.map Prod.snd).flatMap fun id => g.productions.filter (·.lhs = id) := by
    rw [List.flatMap_map]
  simp only [hgroup]
  rw [hids, List.zipIdx_map_snd, ← List.range_eq_range']
  exact flatMap_filter_eq hgrouped hlhs

/-- A body whose pieces are read back as its symbols is read back. -/
theorem resolveAlternative_written {v : Vocabulary} {d : Declaration} {g₀ : Grammar} {line : Nat}
    {p : Production} (hplain : PlainBody (p.body.map g.pieceOf))
    (hsymbols : ∀ s ∈ p.body, v.symbolsOfPiece g₀ (g.pieceOf s) = .ok [s])
    (hnormal : p.body = [.empty] ∨ p.body ≠ [] ∧ .empty ∉ p.body) :
    resolveAlternative g₀ v d p.lhs
      ⟨line, String.ofList (trim (spaced (p.body.map g.pieceOf)))⟩ = .ok p := by
  have hmapM : (p.body.map g.pieceOf).mapM (v.symbolsOfPiece g₀) =
      .ok (p.body.map fun s => [s]) := by
    rw [mapM_eq_ok, List.forall₂_map_left_iff, List.forall₂_map_right_iff, List.forall₂_same]
    exact hsymbols
  have hflatten : (p.body.map fun s => [s]).flatten = p.body := by
    rw [← List.flatMap_def, List.flatMap_singleton']
  simp only [resolveAlternative, Vocabulary.symbolsOf, String.toList_ofList,
    pieces_trim_spaced hplain.2, hmapM, hflatten, normalize_eq_self hnormal]

/-- The declarations that a grammar is written as have its nonterminals. -/
theorem frame_declarations (h : g.nonterminals.Nodup) (x : Lexicon) (options : Options) :
    frame (g.nonterminals.zipIdx.map g.declarationOf) x options =
      ⟨x.terminalNames, g.nonterminals, [], (emptySpellings x options).headD "$"⟩ := by
  have hnames : Declarations.names (g.nonterminals.zipIdx.map g.declarationOf) =
      g.nonterminals := by
    rw [Declarations.names, List.map_map]
    exact List.zipIdx_map_fst 0 g.nonterminals
  have hnonterminals : g.nonterminals.foldl addNew [] = g.nonterminals := foldl_addNew_of_nodup h
  have hterminals : x.terminalNames.foldl addNew [] = x.terminalNames :=
    foldl_addNew_of_nodup x.nodup_terminalNames
  rw [frame, hnames, hnonterminals, hterminals]

/-- Declarations whose alternatives are all resolved are resolved. -/
theorem resolve_of_forall₂ {ds : Declarations} {x : Lexicon} {options : Options}
    {productions : List Production} (hds : ds ≠ [])
    (h : List.Forall₂ (fun w p => resolveAlternative (frame ds x options)
        (Vocabulary.ofGrammar (frame ds x options) x (emptySpellings x options)) w.1 w.2.1 w.2.2 =
          .ok p)
      (ds.zipIdx.flatMap fun d => d.1.alternatives.map fun a => (d.1, d.2, a)) productions) :
    resolve ds x options = .ok { frame ds x options with productions } := by
  have hnil : ds.isEmpty = false := by simpa [List.isEmpty_iff] using hds
  have hwork := mapM_eq_ok.2 h
  simp only [resolve, hnil, Bool.false_eq_true, if_false]
  split
  · rename_i hok
    cases hok.symm.trans hwork
    rfl
  · rename_i herror
    cases herror.symm.trans hwork

/-- The declarations that a grammar is written as are resolved to its productions, if the pieces of
all bodies are. -/
theorem resolve_declarations {x : Lexicon} {options : Options} {g₀ : Grammar}
    (hframe : frame (g.nonterminals.zipIdx.map g.declarationOf) x options = g₀)
    (hne : g.nonterminals ≠ [])
    (hproductions : (g.nonterminals.zipIdx.flatMap fun rule =>
      (g.productionsOf rule.2).map Prod.fst) = g.productions)
    (hresolve : ∀ p ∈ g.productions, ∀ d line, resolveAlternative g₀
      (Vocabulary.ofGrammar g₀ x (emptySpellings x options)) d p.lhs
      ⟨line, String.ofList (trim (spaced (p.body.map g.pieceOf)))⟩ = .ok p) :
    resolve (g.nonterminals.zipIdx.map g.declarationOf) x options =
      .ok { g₀ with productions := g.productions } := by
  have hds : g.nonterminals.zipIdx.map g.declarationOf ≠ [] := by simpa using hne
  rw [← hframe] at hresolve ⊢
  refine resolve_of_forall₂ hds ?_
  rw [zipIdx_map_zipIdx, List.flatMap_map, ← hproductions]
  refine List.rel_flatMap (R := fun a b => a = b ∧ a ∈ g.nonterminals.zipIdx)
    (List.forall₂_same.2 fun _ h => ⟨rfl, h⟩) ?_
  rintro rule _ ⟨rfl, -⟩
  simp only [declarationOf, bodiesOf, List.map_map, List.forall₂_map_left_iff,
    List.forall₂_map_right_iff, List.forall₂_same]
  rintro ⟨p, i⟩ hp
  obtain ⟨hp, hlhs⟩ := List.mem_filter.1 hp
  have hp : p ∈ g.productions := List.fst_mem_of_mem_zipIdx hp
  have hlhs : p.lhs = rule.2 := of_decide_eq_true hlhs
  rw [Function.comp_apply, Function.comp_apply, ← hlhs]
  exact hresolve p hp _ _

/-! ## Resolved grammars -/

variable {lexicon text : String} {ds : Declarations} {x : Lexicon} {options : Options}

/-- Only a spelling of the empty symbol makes a production empty, and the grammar writes it with
the first of these spellings. -/
theorem emptyName_mem_of_resolve (hds : Declarations.parse text = .ok ds)
    (hg : resolve ds x options = .ok g) {p : Production} (hp : p ∈ g.productions)
    (hempty : .empty ∈ p.body) : g.emptyName ∈ emptySpellings x options := by
  obtain ⟨-, productions, rfl, hproductions⟩ := resolve_eq_ok hg
  obtain ⟨d, lhs, a, hd, ha, hp⟩ := hproductions p hp
  have hne : emptySpellings x options ≠ [] := by
    unfold resolveAlternative at hp
    split at hp
    · rename_i symbols hsymbols
      cases hp
      obtain ⟨body, parts, part, hcut, hpart, hne, htext⟩ :=
        Declarations.exists_part_of_parse hds (List.fst_mem_of_mem_zipIdx hd) ha
      have hpieces : pieces a.text.toList ≠ [] := by
        rw [htext, String.toList_ofList]
        exact hcut.pieces_ne_nil hpart hne
      refine Vocabulary.ne_nil_of_empty_mem hsymbols (by_contra fun hnot => ?_)
      have hsymbols := Vocabulary.ne_nil_of_symbolsOf hsymbols hpieces
      rw [normalize_eq_self (.inr ⟨hsymbols, hnot⟩)] at hempty
      exact hnot hempty
    · cases hp
  have hhead : (emptySpellings x options).headD "$" ∈ emptySpellings x options := by
    obtain ⟨name, names, hnames⟩ := List.exists_cons_of_ne_nil hne
    rw [hnames]
    exact List.mem_cons_self
  exact hhead

theorem isSeparator_of_terminal? {r : Rule} {name : String} (h : r.terminal? = some name) :
    r.isSeparator = false := by
  cases hr : r.isSeparator with
  | false => rfl
  | true => simp [Rule.terminal?, Rule.kind, hr] at h

/-- A terminal stands on one line of its lexicon. -/
theorem newline_not_mem_terminal (hx : Lexicon.parse lexicon = .ok x) {name : String}
    (hname : name ∈ x.terminalNames) : '\n' ∉ name.toList := by
  rw [Lexicon.terminalNames_eq, List.mem_eraseDups] at hname
  obtain ⟨r, hr, hterminal⟩ := List.mem_filterMap.1 hname
  obtain ⟨ls, rfl, hls⟩ := Lexicon.plain_of_parse hx
  obtain ⟨hplain, hpattern⟩ :=
    Lexicon.plain_of_mem_rules hls hr (isSeparator_of_terminal? hterminal)
  unfold Rule.terminal? at hterminal
  split at hterminal
  · cases hterminal
    rw [Rule.spelling, String.toList_ofList]
    exact fun hmem => hpattern.2 (mem_of_mem_unescape hmem)
  · cases hterminal
    exact fun hmem => absurd (Lexicon.isNameChar_of_mem hplain _ hmem) (by decide)
  · cases hterminal

/-- No production is empty, or the empty symbol is written with a bare word that is neither a
left-hand side nor another spelling of a nonterminal. -/
def WritesEmpty (g : Grammar) (x : Lexicon) : Prop :=
  (∀ p ∈ g.productions, p.isEpsilon = false) ∨
    (IsBare g.emptyName.toList ∧ g.emptyName ∉ g.nonterminals ∧
      g.emptyName ∉ x.spellings .nonterminal)

/-- A name of a resolved grammar was read as the head of a line. -/
theorem isNonterminal_of_mem_nonterminals (hg : g.Declared x text) {name : String}
    (hname : name ∈ g.nonterminals) : IsNonterminal name.toList := by
  rw [hg.nonterminals_eq, List.mem_eraseDups] at hname
  obtain ⟨raw, -, hhead⟩ := List.mem_filterMap.1 hname
  exact isNonterminal_of_head? hhead

/-- The symbols that occur in a resolved grammar. -/
def Occurs (g : Grammar) (s : Symbol) : Prop := ∃ p ∈ g.productions, s ∈ p.body

/-- What is needed of the empty symbol where it occurs. -/
theorem empty_of_occurs (hds : Declarations.parse text = .ok ds)
    (hg : resolve ds x options = .ok g) (hempty : g.WritesEmpty x) (h : g.Occurs .empty) :
    IsBare g.emptyName.toList ∧ g.emptyName ∉ g.nonterminals ∧
      g.emptyName ∉ x.spellings .nonterminal ∧ g.emptyName ∈ emptySpellings x options := by
  obtain ⟨p, hp, hs⟩ := h
  have hbody : p.body = [.empty] :=
    (Normal.of_resolve hg p hp).resolve_right fun hnormal => hnormal.2 hs
  rcases hempty with hnone | ⟨hbare, hnonterminal, hspelling⟩
  · have hp := hnone p hp
    simp [Production.isEpsilon, hbody] at hp
  · exact ⟨hbare, hnonterminal, hspelling, emptyName_mem_of_resolve hds hg hp hs⟩

/-- The vocabulary of a grammar, whatever its productions are. -/
abbrev vocabulary (g : Grammar) (x : Lexicon) (options : Options) : Vocabulary :=
  Vocabulary.ofGrammar g x (emptySpellings x options)

/-- The piece can be written on one line and stands for the symbol. -/
structure Piece.Writes (p : Piece) (g : Grammar) (v : Vocabulary) (s : Symbol) : Prop where
  plain : p.Plain
  oneLine : '\n' ∉ p.source
  symbolsOf : v.symbolsOfPiece g p = .ok [s]

theorem writes_word {v : Vocabulary} {word : List Char} {s : Symbol} (hne : word ≠ [])
    (hbare : IsBare word) (hsymbols : v.symbolsOfWord word = .ok [s]) :
    (Piece.word word).Writes g v s :=
  ⟨⟨hne, hbare⟩, fun hmem => absurd (hbare.1 _ hmem) (by decide), hsymbols⟩

/-- Every symbol that occurs in a resolved grammar is written by its piece. -/
theorem writes_pieceOf (hx : Lexicon.parse lexicon = .ok x)
    (hds : Declarations.parse text = .ok ds) (hg : resolve ds x options = .ok g)
    (hempty : g.WritesEmpty x) {s : Symbol} (hs : g.Occurs s) :
    (g.pieceOf s).Writes g (g.vocabulary x options) s := by
  have hdeclared : g.Declared x text := .of_resolve hds hg
  obtain ⟨p, hp, hsp⟩ := id hs
  have hknows := hdeclared.wellFormed.knows_body p hp s hsp
  cases s with
  | terminal id =>
    have hname : g.terminalName id ∈ x.terminalNames := by
      rw [← hdeclared.terminals_eq, terminalName, List.getElem?_eq_getElem hknows]
      exact List.getElem_mem hknows
    have hnewline := newline_not_mem_terminal hx hname
    refine ⟨⟨rfl, isContent_escape _⟩, ?_, ?_⟩
    · simp only [pieceOf, Piece.source, List.cons_append, List.mem_cons, List.mem_append, not_or]
      exact ⟨by decide, fun hmem => hnewline (mem_of_mem_escape (by decide) hmem), by decide,
        List.not_mem_nil⟩
    · simp only [pieceOf, Vocabulary.symbolsOfPiece, unescape_escape, String.ofList_toList,
        hdeclared.terminal?_name id hknows]
  | nonterminal id =>
    have hmem : (g.nonterminalName id, id) ∈ g.nonterminals.zipIdx := by
      rw [List.mk_mem_zipIdx_iff_getElem?, nonterminalName, List.getElem?_eq_getElem hknows]
      rfl
    have hname := isNonterminal_of_mem_nonterminals hdeclared (List.fst_mem_of_mem_zipIdx hmem)
    exact writes_word hname.isBare.1 hname.isBare.2
      (Vocabulary.symbolsOfWord_nonterminal hdeclared.nodup_nonterminals hmem hname.isBare.1)
  | empty =>
    obtain ⟨hbare, hnonterminal, hspelling, hmem⟩ := empty_of_occurs hds hg hempty hs
    have hne : g.emptyName.toList ≠ [] := by simpa using (List.mem_filter.1 hmem).2
    exact writes_word hne hbare (Vocabulary.symbolsOfWord_empty hmem hne hnonterminal hspelling)

/-- A resolved grammar can be written. -/
theorem Writable.of_writes {v : Vocabulary} (hg : g.Declared x text)
    (hpieces : ∀ s, g.Occurs s → (g.pieceOf s).Writes g v s) : g.Writable where
  isNonterminal name hname := isNonterminal_of_mem_nonterminals hg hname
  nodup := hg.nodup_nonterminals
  bodiesOf_ne_nil id hid := by
    obtain ⟨p, hp, hlhs⟩ := hg.exists_production id hid
    obtain ⟨i, hi⟩ := List.getElem?_of_mem hp
    have hmem : (p, i) ∈ g.productionsOf id :=
      List.mem_filter.2 ⟨List.mk_mem_zipIdx_iff_getElem?.2 hi, decide_eq_true hlhs⟩
    exact List.ne_nil_of_mem (List.mem_map_of_mem hmem)
  plain p hp := by
    refine ⟨?_, fun piece hpiece => ?_⟩
    · rcases hg.normal p hp with hbody | ⟨hne, -⟩
      · simp [hbody]
      · simpa using hne
    · obtain ⟨s, hs, rfl⟩ := List.mem_map.1 hpiece
      exact (hpieces s ⟨p, hp, hs⟩).plain
  oneLine p hp s hs := (hpieces s ⟨p, hp, hs⟩).oneLine

/-- A grammar that was resolved over a lexicon is read back from the text that it is written as, and
resolved to itself, unless its empty symbol is written with a word that has another meaning. -/
theorem resolve_render (hx : Lexicon.parse lexicon = .ok x)
    (hds : Declarations.parse text = .ok ds) (hg : resolve ds x options = .ok g)
    (hempty : g.WritesEmpty x) :
    ∃ ds', Declarations.parse g.render = .ok ds' ∧ resolve ds' x options = .ok g := by
  have hdeclared : g.Declared x text := .of_resolve hds hg
  have hpieces := fun s => writes_pieceOf (s := s) hx hds hg hempty
  have hwritable : g.Writable := .of_writes hdeclared hpieces
  refine ⟨_, hwritable.parse_eq_ok, ?_⟩
  have hframe : frame (g.nonterminals.zipIdx.map g.declarationOf) x options =
      { g with productions := [] } := by
    rw [frame_declarations hdeclared.nodup_nonterminals, ← hdeclared.terminals_eq]
    obtain ⟨-, productions, rfl, -⟩ := resolve_eq_ok hg
    rfl
  have hne : g.nonterminals ≠ [] := fun hnil => by
    have hlt := hdeclared.wellFormed.start_lt
    rw [hnil] at hlt
    exact Nat.not_lt_zero _ hlt
  rw [resolve_declarations hframe hne
    (flatMap_productionsOf hdeclared.grouped hdeclared.wellFormed.lhs_lt)]
  intro p hp d line
  exact resolveAlternative_written (hwritable.plain p hp)
    (fun s hs => (hpieces s ⟨p, hp, hs⟩).symbolsOf) (hdeclared.normal p hp)

/-- Terminals that hold a quote, a bar and a backslash, or nothing, or are spelled like a
nonterminal. -/
def knottyLexicon : Lexicon where
  rules := [⟨"TERMINAL", "\\\"|\\\\", 1, false⟩, ⟨"TERMINAL", "", 2, false⟩,
    ⟨"TERMINAL", "S", 3, false⟩, ⟨"EMPTY_SYMBOL", "$$", 4, false⟩]

def knotty : String := "S->'\"|\\\\'S' \"\"|\"S\"\n\nS' -> $$ $\n#\n| S'S eps"

def knottyDeclarations : Declarations :=
  [⟨"S", 1, [⟨1, "'\"|\\\\'S' \"\""⟩, ⟨1, "\"S\""⟩]⟩, ⟨"S'", 3, [⟨3, "$$ $"⟩, ⟨5, "S'S eps"⟩]⟩]

def knottyGrammar : Grammar where
  terminals := ["\"|\\", "", "S"]
  nonterminals := ["S", "S'"]
  productions := [⟨0, [.terminal 0, .nonterminal 1, .terminal 1]⟩, ⟨0, [.terminal 2]⟩,
    ⟨1, [.empty]⟩, ⟨1, [.nonterminal 1, .nonterminal 0]⟩]
  emptyName := "$$"

theorem resolve_render_knotty : Lexicon.parse knottyLexicon.render = .ok knottyLexicon ∧
    Declarations.parse knotty = .ok knottyDeclarations ∧
      resolve knottyDeclarations knottyLexicon {} = .ok knottyGrammar ∧
        knottyGrammar.WritesEmpty knottyLexicon ∧
          knottyGrammar.render = "S -> \"\\\"|\\\\\" S' \"\" | \"S\"\nS' -> $$ | S' S\n" ∧
            ∃ ds, Declarations.parse knottyGrammar.render = .ok ds ∧
              resolve ds knottyLexicon {} = .ok knottyGrammar := by
  have hx : Lexicon.parse knottyLexicon.render = .ok knottyLexicon := by decide +kernel
  have hds : Declarations.parse knotty = .ok knottyDeclarations := by decide +kernel
  have hg : resolve knottyDeclarations knottyLexicon {} = .ok knottyGrammar := by decide +kernel
  have hempty : knottyGrammar.WritesEmpty knottyLexicon := .inr (by decide +kernel)
  exact ⟨hx, hds, hg, hempty, by decide +kernel, resolve_render hx hds hg hempty⟩

end TopDown.Grammar
