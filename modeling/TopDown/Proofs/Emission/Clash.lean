import TopDown.Proofs.Emission.Faithful
import TopDown.Proofs.Emission.SupportText

/-!
# Names that clash

* `About`, `Trails` : a text that names certain types only, in front of any other text or of one
  that does not go on with its last word;
* `Layout.About.render` : so does a layout of such texts, however it is broken;
* `about_render` : tables name types of the emitted module only;
* `isTypeName_iff` : the types that an emitted module names are that of the parser and a fixed list
  of others;
* `isTypeName_iff_of_parserName`, `accepted_names_clash` : which names are accepted for a parser
  although they stand for one of those.
-/

namespace TopDown.Emission

open Text

variable {P Q : List Char → Prop} {s t w : List Char} {ps : List Piece}

/-! ## Texts about certain types -/

/-- A text that names only types of which `P` holds, in front of any other text. -/
def About (P : List Char → Prop) (s : List Char) : Prop := ∃ ps, Chunk s ps ∧ Within P ps

/-- A text that does so in front of any text that does not go on with its last word. -/
def Trails (P : List Char → Prop) (s : List Char) : Prop :=
  ∃ ps, (∀ t, Stops isWordChar t → Cursor.pieces {} (s ++ t) = ps ++ Cursor.pieces {} t) ∧
    Within P ps

theorem About.trails (h : About P s) : Trails P s := by
  obtain ⟨ps, hchunk, hwithin⟩ := h
  exact ⟨ps, fun t _ => hchunk t, hwithin⟩

theorem About.append (hs : About P s) (ht : About P t) : About P (s ++ t) := by
  obtain ⟨ps, hps, hs⟩ := hs
  obtain ⟨qs, hqs, ht⟩ := ht
  exact ⟨ps ++ qs, hps.append hqs, hs.append ht⟩

theorem About.append_trails (hs : About P s) (ht : Trails P t) : Trails P (s ++ t) := by
  obtain ⟨ps, hps, hs⟩ := hs
  obtain ⟨qs, hqs, ht⟩ := ht
  refine ⟨ps ++ qs, fun u hu => ?_, hs.append ht⟩
  rw [List.append_assoc, hps, hqs u hu, List.append_assoc]

/-- A text that the last word of another text cannot go on with. -/
def breaks (t : List Char) : Bool := t.head?.any fun c => !isWordChar c

/-- The last word ends at a text that it cannot go on with. -/
theorem Trails.append (hs : Trails P s) (ht : About P t) (hbreaks : breaks t = true) :
    About P (s ++ t) := by
  obtain ⟨ps, hps, hs⟩ := hs
  obtain ⟨qs, hqs, ht⟩ := ht
  cases t with
  | nil => cases hbreaks
  | cons c t =>
    refine ⟨ps ++ qs, fun u => ?_, hs.append ht⟩
    have hc : isWordChar c = false := by simpa [breaks] using hbreaks
    rw [List.append_assoc, List.append_assoc, ← hqs]
    exact hps _ (stops_cons hc _)

theorem About.mono (h : About P s) (hPQ : ∀ w, P w → Q w) : About Q s := by
  obtain ⟨ps, hchunk, hwithin⟩ := h
  exact ⟨ps, hchunk, hwithin.mono hPQ⟩

theorem about_nil : About P [] := ⟨[], chunk_nil, .nil⟩

theorem about_spaces (n : Nat) : About P (spaces n).toList := by
  rw [spaces, String.toList_ofList]
  exact ⟨[], chunk_spaces n, .nil⟩

theorem about_of_isPlain (h : Cursor.after {} s = {} ∧ isPlain (Cursor.pieces {} s) = true ∧
    Settled (Cursor.pieces {} s)) : About P s :=
  ⟨_, chunk_of_after h.1, within_of_isPlain h.2.1 h.2.2⟩

theorem trails_of_isPlain (h : (Cursor.after {} s).zone = .code ∧
    isPlain (Cursor.pieces {} s) = true ∧ Settled (Cursor.pieces {} s)) : Trails P s :=
  ⟨_, fun _ ht => pieces_append_of_stops h.1 ht, within_of_isPlain h.2.1 h.2.2⟩

/-- A word that declares nothing and is no type of the language. -/
theorem trails_word (hw : IsWord w) (hbare : String.ofList (bare w) ∉ languageTypes)
    (hdeclares : declares w = false) : Trails P w := by
  refine ⟨[.word w], fun t ht => pieces_word hw ht, ?_, fun v hv => ?_, fun v hv => ?_⟩
  · rw [Settled, List.foldl_cons, List.foldl_nil, Context.next, hdeclares]
  · cases List.mem_singleton.1 hv
    exact fun h => absurd h hbare
  · cases hv

/-! ## Numbers and literals -/

theorem bare_subset (w : List Char) : bare w ⊆ w := by
  unfold bare
  split
  · exact fun c hc => List.mem_cons_of_mem _ (List.mem_cons_of_mem _ hc)
  · exact List.Subset.refl _

theorem isWordChar_of_isDigit {c : Char} (h : c.isDigit = true) : isWordChar c = true := by
  have hascii : c.toNat < 128 := by
    simp only [Char.isDigit, Bool.and_eq_true, decide_eq_true_eq] at h
    exact Nat.lt_of_le_of_lt (UInt32.le_iff_toNat_le.1 h.2) (by decide)
  simp [isWordChar, isContinue, hascii, Char.isAlphanum, h]

/-- A text of digits is none of these texts. -/
theorem ofList_not_mem_of_isDigit (hw : ∀ c ∈ w, c.isDigit = true) {texts : List String}
    (htexts : ∀ x ∈ texts, x.toList.all Char.isDigit = false) : String.ofList w ∉ texts := by
  intro hmem
  have hall := htexts _ hmem
  rw [String.toList_ofList, List.all_eq_true.2 hw] at hall
  cases hall

theorem trails_digits (n : Nat) : Trails P (digits n) := by
  have hdigit : ∀ c ∈ digits n, c.isDigit = true := isDigit_of_mem_digits
  refine trails_word ⟨Nat.toDigits_ne_nil, fun c hc => isWordChar_of_isDigit (hdigit c hc)⟩ ?_ ?_
  · exact ofList_not_mem_of_isDigit (fun c hc => hdigit c (bare_subset _ hc)) (by decide +kernel)
  · simpa [declares] using
      ofList_not_mem_of_isDigit hdigit
        (show ∀ x ∈ ["struct", "enum", "type", "trait"], _ from by decide +kernel)

theorem pieces_body (h : Literal.Body s) (t : List Char) :
    Cursor.pieces ⟨.literal, []⟩ (s ++ t) = Cursor.pieces ⟨.literal, []⟩ t := by
  induction h with
  | nil => rfl
  | @plain c s hc _ ih =>
    obtain ⟨hquote, hbackslash, -, -⟩ := hc
    have hnext : Zone.next .literal c = .literal := by
      unfold Zone.next
      split <;> simp_all
    have hstep : Cursor.step ⟨.literal, []⟩ c = ([], ⟨.literal, []⟩) := by
      simp [Cursor.step, Zone.isCode, hnext]
    rw [List.cons_append, Cursor.pieces, hstep, List.nil_append, ih]
  | @escaped c s _ _ _ ih => exact ih

theorem about_quoteString (s : String) : About P (quoteString s).toList := by
  have htext : (quoteString s).toList = '"' :: ((escapeString s.toList).toList ++ ['"']) := by
    simp [quoteString]
  have hplain : isPlain [.mark '"'] = true := by decide
  refine ⟨[.mark '"'], fun t => ?_, within_of_isPlain hplain (by decide)⟩
  have hopen : Cursor.step {} '"' = ([.mark '"'], ⟨.literal, []⟩) := by decide
  rw [htext, List.cons_append, List.append_assoc, Cursor.pieces, hopen,
    pieces_body (Literal.body_escapeString _)]
  rfl

theorem about_call {head : String} (hhead : About P head.toList) (n : Nat) :
    About P (call head n) := by
  rw [call, ← List.append_assoc]
  exact (hhead.append_trails (trails_digits n)).append (about_of_isPlain (by decide)) (by decide)

theorem trails_optionText (o : Option Nat) : Trails P (optionText o).toList := by
  rw [toList_optionText]
  cases o with
  | none => exact trails_of_isPlain (by decide +kernel)
  | some n => exact (about_call (about_of_isPlain (by decide +kernel)) n).trails

theorem trails_symbolText (x : Symbol) : Trails P (symbolText x).toList := by
  rw [toList_symbolText]
  cases x with
  | terminal id => exact (about_call (about_of_isPlain (by decide +kernel)) id).trails
  | nonterminal id => exact (about_call (about_of_isPlain (by decide +kernel)) id).trails
  | empty => exact trails_of_isPlain (by decide +kernel)

/-! ## Layouts -/

namespace Layout

/-- A layout of such texts between brackets that no word goes on with. -/
inductive About (P : List Char → Prop) : Layout → Prop where
  | atom {text : String} : Trails P text.toList → About P (.atom text)
  | list {opening closing : String} {items : List Layout} :
    Emission.About P opening.toList → (∀ i ∈ items, About P i) → Emission.About P closing.toList →
      breaks closing.toList = true → About P (.list opening closing items)

mutual

theorem trails_flat (l : Layout) (h : l.About P) : Trails P l.flat.toList := by
  cases h with
  | atom htext => exact htext
  | @list opening closing items hopening hitems hclosing hbreaks =>
    rw [Layout.flat, String.toList_append, String.toList_append]
    exact ((hopening.append_trails (trails_flatItems items hitems)).append hclosing hbreaks).trails

theorem trails_flatItems (is : List Layout) (h : ∀ i ∈ is, i.About P) :
    Trails P (flatItems is).toList := by
  match is, h with
  | [], _ => exact about_nil.trails
  | [i], h => exact trails_flat i (h i List.mem_cons_self)
  | i :: j :: is, h =>
    obtain ⟨hi, his⟩ := List.forall_mem_cons.1 h
    rw [flatItems, String.toList_append, String.toList_append]
    exact ((trails_flat i hi).append (about_of_isPlain (by decide)) (by decide)).append_trails
      (trails_flatItems (j :: is) his)

end

mutual

/-- A layout names what its texts do, however it is broken. -/
theorem trails_render (l : Layout) (h : l.About P) (indent column after : Nat) :
    Trails P (l.render indent column after).toList := by
  cases h with
  | atom htext => exact htext
  | @list opening closing items hopening hitems hclosing hbreaks =>
    rw [Layout.render]
    split
    · have hflat := trails_flat _ (.list hopening hitems hclosing hbreaks)
      rwa [Layout.flat] at hflat
    · have hfeed : Emission.About P "\n".toList := about_of_isPlain (by decide)
      rw [String.toList_append, String.toList_append, String.toList_append, String.toList_append]
      exact ((((hopening.append hfeed).append (about_renderItems items hitems _)).append
        (about_spaces indent)).append hclosing).trails

theorem about_renderItems (is : List Layout) (h : ∀ i ∈ is, i.About P) (indent : Nat) :
    Emission.About P (renderItems indent is).toList := by
  match is, h with
  | [], _ => exact about_nil
  | [i], h =>
    rw [renderItems, String.toList_append, String.toList_append]
    have hi := trails_render i (h i List.mem_cons_self)
    exact ((about_spaces indent).append_trails (hi _ _ _)).append (about_of_isPlain (by decide))
      (by decide)
  | i :: j :: is, h =>
    obtain ⟨hi, his⟩ := List.forall_mem_cons.1 h
    rw [renderItems, String.toList_append, String.toList_append, String.toList_append]
    exact (((about_spaces indent).append_trails (trails_render i hi _ _ _)).append
      (about_of_isPlain (by decide)) (by decide)).append (about_renderItems (j :: is) his indent)

end

end Layout

/-! ## Tables -/

theorem about_slice {items : List Layout} (h : ∀ i ∈ items, i.About P) :
    (sliceLayout items).About P :=
  .list (about_of_isPlain (by decide)) h (about_of_isPlain (by decide)) (by decide)

theorem about_tuple {items : List Layout} (h : ∀ i ∈ items, i.About P) :
    (tupleLayout items).About P :=
  .list (about_of_isPlain (by decide)) h (about_of_isPlain (by decide)) (by decide)

theorem about_stringsLayout (names : List String) : (stringsLayout names).About P :=
  about_slice (List.forall_mem_map.2 fun s _ => .atom (about_quoteString s).trails)

theorem about_number (n : Nat) : Layout.About P (.atom (toString n)) := by
  refine .atom ?_
  rw [toList_toString]
  exact trails_digits n

theorem about_ruleLayout (r : RuleRow) : (ruleLayout r).About P := by
  refine about_tuple ?_
  simp only [List.forall_mem_cons]
  exact ⟨.atom (about_quoteString _).trails, .atom (about_quoteString _).trails,
    .atom (trails_optionText _), about_number _, List.forall_mem_nil _⟩

theorem about_productionLayout (p : Production) : (productionLayout p).About P := by
  refine about_tuple ?_
  simp only [List.forall_mem_cons]
  exact ⟨about_number _,
    about_slice (List.forall_mem_map.2 fun x _ => .atom (trails_symbolText x)),
    List.forall_mem_nil _⟩

/-- The texts between the lists of the tables name types of the emitted module only. -/
theorem about_tableTexts {t : String} (h : t ∈ tableTexts) : About InModule t.toList := by
  obtain ⟨hafter, hwithin⟩ := within_tableTexts h
  exact ⟨_, chunk_of_after hafter, hwithin⟩

theorem about_constant (head : String) (hhead : About InModule head.toList) {l : Layout}
    (h : l.About InModule) : About InModule (constant head l).toList := by
  rw [constant, String.toList_append, String.toList_append]
  exact (hhead.append_trails (Layout.trails_render l h _ _ _)).append (about_of_isPlain (by decide))
    (by decide)

theorem about_iff {text : String} :
    About P (text.toList ++ ['\n']) ↔ Code.Closed text ∧ Within P (Code.pieces text) := by
  constructor
  · rintro ⟨ps, hchunk, hwithin⟩
    rw [Code.Closed, Code.pieces, hchunk.pieces_eq]
    exact ⟨hchunk, hwithin⟩
  · rintro ⟨hclosed, hwithin⟩
    exact ⟨_, hclosed, hwithin⟩

theorem about_renderAll {cs : List Code}
    (h : ∀ t ∈ Code.textsAll cs, About P (t.toList ++ ['\n'])) (indent : Nat) :
    About P (Code.renderAll indent cs).toList :=
  ⟨_, Code.chunk_renderAll cs (fun t ht => (about_iff.1 (h t ht)).1) indent,
    .flatMap fun t ht => (about_iff.1 (h t ht)).2⟩

theorem about_armCode (a : Arm) : ∀ t ∈ (armCode a).texts, About P (t.toList ++ ['\n']) := by
  intro t ht
  rw [List.mem_singleton.1 ht]
  simp only [String.toList_append, toList_toString]
  exact ((((((about_of_isPlain (by decide)).append_trails (trails_digits _)).append
    (about_of_isPlain (by decide)) (by decide)).append_trails (trails_optionText _)).append
      (about_of_isPlain (by decide +kernel)) (by decide +kernel)).append_trails
        (trails_digits _)).append (about_of_isPlain (by decide)) (by decide) |>.append
          (about_of_isPlain (by decide))

/-- So do the lines that are the same in every emitted module. -/
theorem about_fixedItems {t : String} (h : t ∈ Code.textsAll fixedItems) :
    About InModule (t.toList ++ ['\n']) :=
  about_iff.2 ⟨(fits_fixedItems h).closed, (fits_fixedItems h).within⟩

theorem about_symbolType {t : String} (h : t ∈ Code.textsAll symbolType) :
    About InModule (t.toList ++ ['\n']) := by
  refine about_fixedItems ?_
  rw [fixedItems, Code.textsAll_append, Code.textsAll_append]
  exact List.mem_append_left _ (List.mem_append_left _ h)

theorem about_predictCode (arms : List Arm) :
    ∀ t ∈ Code.textsAll (predictCode arms), About InModule (t.toList ++ ['\n']) := by
  have harms : ∀ t ∈ Code.textsAll (arms.map armCode), About InModule (t.toList ++ ['\n']) := by
    induction arms with
    | nil => exact List.forall_mem_nil _
    | cons a arms ih => exact List.forall_mem_append.2 ⟨about_armCode a, ih⟩
  have htexts {t : String} (ht : t ∈ Code.textsAll (predictCode arms)) :
      t ∈ Code.textsAll (predictCode []) ∨ t ∈ Code.textsAll (arms.map armCode) := by
    simp only [predictCode, Code.block, Code.textsAll, Code.texts, Code.textsAll_append,
      List.mem_append, List.mem_cons, List.map_nil, List.nil_append, Option.toList_some] at ht ⊢
    grind
  intro t ht
  rcases htexts ht with ht | ht
  · refine about_fixedItems ?_
    rw [fixedItems, Code.textsAll_append, Code.textsAll_append]
    exact List.mem_append_left _ (List.mem_append_right _ ht)
  · exact harms t ht

/-- Tables name types of the emitted module only. -/
theorem about_render (t : Tables) : About InModule t.render.toList := by
  unfold Tables.render
  simp only [String.toList_append, toList_toString]
  have htext {s : String} (hs : s ∈ tableTexts) := about_tableTexts hs
  have hsymbol := about_renderAll (fun _ => about_symbolType) 0
  have hterminals := about_constant "pub const TERMINALS: &[&str] = " (htext (by simp [tableTexts]))
    (about_stringsLayout t.terminals)
  have hnonterminals := about_constant "pub const NONTERMINALS: &[&str] = "
    (htext (by simp [tableTexts])) (about_stringsLayout t.nonterminals)
  have hstart := (htext (s := "pub const START: usize = ")
    (by simp [tableTexts])).append_trails (trails_digits t.start)
  have hrules := about_constant "pub const RULES: &[(&str, &str, Option<usize>, usize)] = "
    (htext (by simp [tableTexts]))
    (about_slice (List.forall_mem_map.2 fun r (_ : r ∈ t.rules) => about_ruleLayout r))
  have hproductions := about_constant "pub const PRODUCTIONS: &[(usize, &[Symbol])] = "
    (htext (by simp [tableTexts]))
    (about_slice (List.forall_mem_map.2 fun p (_ : p ∈ t.productions) => about_productionLayout p))
  have hpredict := about_renderAll (about_predictCode t.arms) 0
  have hdead := htext (s := "#[allow(dead_code)]\n") (by simp [tableTexts])
  have hempty := htext (s := "pub const EMPTY: &str = ") (by simp [tableTexts])
  have hend : About InModule ";\n".toList := about_of_isPlain (by decide)
  have hname := about_quoteString (P := InModule) t.emptyName
  have hlexical := htext
    (s := "/// Lexical rules as `(name, pattern, terminal, priority)`. Separators\n")
    (by simp [tableTexts])
  have hnone := htext (s := "/// have no terminal.\n") (by simp [tableTexts])
  have hbodies := htext (s := "/// Productions as `(left-hand side, body)`.\n")
    (by simp [tableTexts])
  have hsymbols := (hsymbol.append hterminals).append hnonterminals
  have hhead := (hsymbols.append_trails hstart).append hend (by decide)
  have hnamed := (((hhead.append hdead).append hempty).append hname).append hend
  have hlisted := ((hnamed.append hlexical).append hnone).append hrules
  have hall := ((hlisted.append hbodies).append hproductions).append hpredict
  simpa only [List.append_assoc] using hall

/-! ## The fixed part -/

theorem chunk_support {name : String} (hname : IsWord name.toList) :
    Chunk (support name).toList ((Code.textsAll (items name)).flatMap Code.pieces) :=
  Code.chunk_renderAll (items name) (fun _ ht => (fits_texts hname ht).closed) 0

/-- A line of the fixed part that names a type. -/
theorem namesType_of_mem {name : String} (hname : IsWord name.toList) {text x : String}
    (htext : text ∈ Code.textsAll (items name)) (h : NamesType (Code.pieces text) x) :
    NamesType ((Code.textsAll (items name)).flatMap Code.pieces) x :=
  h.flatMap htext fun _ ht => (fits_texts hname ht).within.settled

theorem mem_items_of_typeItems {text : String} (h : text ∈ Code.textsAll typeItems)
    (name : String) : text ∈ Code.textsAll (items name) := by
  rw [items, Code.textsAll_append, Code.textsAll_append]
  exact List.mem_append_left _ (List.mem_append_left _ h)

theorem mem_items_of_tokenizeMethod {text : String} (h : text ∈ Code.textsAll tokenizeMethod)
    (name : String) : text ∈ Code.textsAll (items name) := by
  simp only [items, parserItems, Code.block, Code.textsAll, Code.texts, Code.textsAll_append,
    List.mem_append, List.mem_cons]
  grind

/-- The line that declares the parser. -/
theorem namesType_bareName {name : String} (hname : IsWord name.toList) :
    NamesType ((Code.textsAll (items name)).flatMap Code.pieces) (bareName name) := by
  have hmem : "pub struct " ++ name ++ " \x7b" ∈ Code.textsAll (items name) := by
    simp [items, parserItems, Code.block, Code.textsAll, Code.texts, Code.textsAll_append]
  have hhead : Cursor.after {} "pub struct ".toList = {} ∧ Cursor.pieces {} "pub struct ".toList =
      [.word ['p', 'u', 'b'], .word ['s', 't', 'r', 'u', 'c', 't']] := by decide +kernel
  have htail : Cursor.after {} [' ', '\x7b', '\n'] = {} ∧
      Cursor.pieces {} [' ', '\x7b', '\n'] = [.mark '\x7b'] := by decide +kernel
  have htext : ("pub struct " ++ name ++ " \x7b").toList =
      "pub struct ".toList ++ name.toList ++ ' ' :: ['\x7b'] := by
    rw [String.toList_append, String.toList_append]
    rfl
  refine namesType_of_mem hname hmem ?_
  rw [(pieces_naming hname htext hhead htail (by decide)).2]
  refine ⟨⟨name.toList, ?_, rfl⟩, .inr ⟨name.toList, ?_, rfl⟩⟩
  · simp [mentioned, Context.next]
  · have hdeclares : declares ['s', 't', 'r', 'u', 'c', 't'] = true := by decide +kernel
    have hpub : declares ['p', 'u', 'b'] = false := by decide +kernel
    simp [declared, Context.next, hdeclares, hpub]

/-- The tables name what the type of symbols does. -/
theorem namesType_render (t : Tables) {text x : String} (htext : text ∈ Code.textsAll symbolType)
    (h : NamesType (Code.pieces text) x) : NamesType (Cursor.pieces {} t.render.toList) x := by
  obtain ⟨rest, hrest⟩ :
      ∃ rest, t.render.toList = (Code.renderAll 0 symbolType).toList ++ rest := by
    unfold Tables.render
    simp only [String.toList_append, List.append_assoc]
    exact ⟨_, rfl⟩
  have hlines := fun text htext => about_iff.1 (about_symbolType (t := text) htext)
  have hsymbol : NamesType ((Code.textsAll symbolType).flatMap Code.pieces) x :=
    NamesType.flatMap h htext fun text htext => (hlines text htext).2.settled
  rw [hrest, Code.chunk_renderAll symbolType (fun text htext => (hlines text htext).1) 0]
  exact hsymbol.append_left (Within.flatMap fun text htext => (hlines text htext).2).settled _

/-- Each type of the emitted module is named by the tables or the fixed part. -/
theorem namesType_of_mem_moduleTypes {name : String} (hname : IsWord name.toList) (t : Tables)
    {x : String} (hx : x ∈ moduleTypes) :
    NamesType (Cursor.pieces {} t.render.toList) x ∨
      NamesType ((Code.textsAll (items name)).flatMap Code.pieces) x := by
  obtain ⟨text, htext, hnames⟩ := exists_namesType hx
  rw [namingItems, Code.textsAll_append, Code.textsAll_append] at htext
  rcases List.mem_append.1 htext with htext | htext
  · rcases List.mem_append.1 htext with htext | htext
    · exact .inl (namesType_render t htext hnames)
    · exact .inr (namesType_of_mem hname (mem_items_of_typeItems htext name) hnames)
  · exact .inr (namesType_of_mem hname (mem_items_of_tokenizeMethod htext name) hnames)

/-! ## Accepted names -/

/-- Identifiers that stand for a type of the emitted module and are accepted for a parser. -/
def clashingNames : List String :=
  ["usize", "str", "char"] ++ moduleTypes.map ("r#" ++ ·)

/-- An identifier is plain or raw. -/
theorem bareName_cases (id : String) :
    (bareName id = id ∧ ∀ x, id ≠ "r#" ++ x) ∨ id = "r#" ++ bareName id := by
  unfold bareName bare
  split
  · rename_i w hw
    right
    rw [← String.toList_inj, String.toList_append, String.toList_ofList, String.toList_ofList, hw]
    rfl
  · rename_i hplain
    left
    refine ⟨String.ofList_toList, ?_⟩
    rintro x rfl
    rw [String.toList_append] at hplain
    exact hplain x.toList rfl

theorem not_mem_reservedNames {s id : String} (h : parserName s = .ok id) : id ∉ reservedNames := by
  unfold parserName at h
  split at h
  · cases h
  · split at h
    · cases h
    · rename_i hreserved
      cases h
      exact hreserved

/-- Only the plain form of a name is looked up among the reserved names. -/
theorem bareName_mem_moduleTypes {id : String} (h : id ∉ reservedNames) :
    bareName id ∈ moduleTypes ↔ id ∈ clashingNames := by
  rw [clashingNames, List.mem_append, List.mem_map]
  rcases bareName_cases id with ⟨hplain, hmark⟩ | hraw
  · rw [hplain]
    constructor
    · intro hmem
      have hothers : ∀ x ∈ moduleTypes, x ∈ reservedNames ∨ x ∈ ["usize", "str", "char"] := by
        decide +kernel
      exact .inl ((hothers id hmem).resolve_left h)
    · rintro (hmem | ⟨x, -, hx⟩)
      · have hknown : ∀ x ∈ ["usize", "str", "char"], x ∈ moduleTypes := by decide +kernel
        exact hknown id hmem
      · exact absurd hx.symm (hmark x)
  · constructor
    · exact fun hmem => .inr ⟨_, hmem, hraw.symm⟩
    · rintro (hmem | ⟨x, hx, heq⟩)
      · have hplain : ∀ x ∈ ["usize", "str", "char"], x ≠ "r#" ++ bareName x := by decide +kernel
        exact absurd hraw (hplain id hmem)
      · rw [hraw] at heq
        rwa [← (String.append_right_inj "r#").1 heq]

/-- The types that an emitted module declares or mentions without a path are that of the parser and
a fixed list of others. -/
theorem isTypeName_iff {name : String} (hname : IsWord name.toList) (t : Tables) (x : String) :
    IsTypeName (t.render ++ support name) x ↔ x = bareName name ∨ x ∈ moduleTypes := by
  obtain ⟨ps, hchunk, hwithin⟩ := about_render t
  rw [IsTypeName, String.toList_append, hchunk, (chunk_support hname).pieces_eq]
  constructor
  · intro hx
    have hall : Within (fun w => w = bare name.toList ∨ InModule w)
        (ps ++ (Code.textsAll (items name)).flatMap Code.pieces) :=
      (hwithin.mono fun _ => .inr).append (.flatMap fun _ ht => (fits_texts hname ht).within)
    obtain ⟨w, rfl, hw⟩ := hall.of_namesType hx
    rcases hw with rfl | hw
    · exact .inl rfl
    · exact .inr hw
  · rintro (rfl | hx)
    · exact (namesType_bareName hname).append_right hwithin.settled
    · have hnames := namesType_of_mem_moduleTypes hname t hx
      rw [hchunk.pieces_eq] at hnames
      rcases hnames with hnames | hnames
      · exact hnames.append_left hwithin.settled _
      · exact hnames.append_right hwithin.settled

/-- A type that a module with these tables declares or mentions without a path whatever its parser
is called, and so any but the parser itself. -/
def IsOtherType (t : Tables) (x : String) : Prop :=
  ∀ s id, parserName s = .ok id → IsTypeName (t.render ++ support id) x

theorem isOtherType_iff (t : Tables) (x : String) : IsOtherType t x ↔ x ∈ moduleTypes := by
  constructor
  · intro h
    have hname : parserName "P" = .ok "P" := by rfl
    have hname' : parserName "Q" = .ok "Q" := by rfl
    have hbare : bareName "P" ≠ bareName "Q" := by decide +kernel
    rcases (isTypeName_iff (isWord_of_parserName hname) t x).1 (h _ _ hname) with hx | hx
    · rcases (isTypeName_iff (isWord_of_parserName hname') t x).1 (h _ _ hname') with hx' | hx'
      · exact absurd (hx.symm.trans hx') hbare
      · exact hx'
    · exact hx
  · exact fun hx s id hname => (isTypeName_iff (isWord_of_parserName hname) t x).2 (.inr hx)

/-- Whatever tables are emitted with a parser of an accepted name, the types that the module names
are that of the parser and the same others. The name of the parser stands for one of those only if
it is that of a primitive type, or marked as raw. -/
theorem isTypeName_iff_of_parserName {s id : String} (h : parserName s = .ok id) (t : Tables) :
    (∀ x, IsTypeName (t.render ++ support id) x ↔ x = bareName id ∨ IsOtherType t x) ∧
      (∀ x, IsOtherType t x ↔ x ∈ moduleTypes) ∧
      (IsOtherType t (bareName id) ↔ id ∈ clashingNames) := by
  refine ⟨fun x => ?_, isOtherType_iff t, ?_⟩
  · rw [isOtherType_iff]
    exact isTypeName_iff (isWord_of_parserName h) t x
  · rw [isOtherType_iff]
    exact bareName_mem_moduleTypes (not_mem_reservedNames h)

/-- A parser called `Calc` is a type of its own next to the tokens. -/
theorem isTypeName_iff_of_parserName_calc :
    let t : Tables := ⟨["Vec"], ["S"], 0, "eps", [⟨"Box", "^(?:x)", some 0, 0⟩],
      [⟨0, [.terminal 0]⟩], [⟨0, some 0, 0⟩]⟩
    parserName "Calc" = .ok "Calc" ∧ IsTypeName (t.render ++ support "Calc") "Calc" ∧
      IsTypeName (t.render ++ support "Calc") "Token" ∧
      ¬ IsTypeName (t.render ++ support "Calc") "Box" ∧ ¬ IsOtherType t "Calc" := by
  intro t
  have hname : parserName "Calc" = .ok "Calc" := by rfl
  obtain ⟨htypes, hothers, -⟩ := isTypeName_iff_of_parserName hname t
  have hbare : bareName "Calc" = "Calc" := by decide +kernel
  rw [hbare] at htypes
  have hbox : "Box" ∉ moduleTypes := by decide +kernel
  refine ⟨hname, (htypes _).2 (.inl rfl), (htypes _).2 (.inr ((hothers _).2 ?_)), fun h => ?_,
    fun h => ?_⟩
  · decide +kernel
  · exact ((htypes _).1 h).elim (by decide +kernel) fun h => hbox ((hothers _).1 h)
  · exact absurd ((hothers _).1 h) (by decide +kernel)

/-- A raw identifier passes for a new name, and so does a primitive type. -/
theorem accepted_names_clash :
    parserName "r#Token" = .ok "r#Token" ∧ bareName "r#Token" = "Token" ∧
      parserName "Token" = .error (.reservedName "Token") ∧ (∀ t, IsOtherType t "Token") ∧
      parserName "usize" = .ok "usize" ∧ bareName "usize" = "usize" ∧
      ∀ t, IsOtherType t "usize" := by
  have htoken : "Token" ∈ moduleTypes := by decide +kernel
  have husize : "usize" ∈ moduleTypes := by decide +kernel
  exact ⟨by rfl, by decide +kernel, by rfl, fun t => (isOtherType_iff t _).2 htoken, by rfl,
    by decide +kernel, fun t => (isOtherType_iff t _).2 husize⟩

end TopDown.Emission
