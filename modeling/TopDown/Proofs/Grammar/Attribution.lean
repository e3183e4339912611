import Mathlib.Data.List.Induction
import TopDown.Proofs.Grammar.Cutting
import TopDown.Proofs.Grammar.Written

/-!
# Whose alternatives they are

The lines of a grammar text are read one after the other, and every alternative is added to the
left-hand side that is current at its line. What comes of it is said here without the reading: an
alternative belongs to the nearest production line at or in front of its own line.

* `Line.Spells`, `Line.read_eq_ok_iff` : the four forms of a line and what each of them says;
* `Line.Offers` : the alternatives of a line; `owner` : whose they are;
* `InOrder`, `Faulty` : lines that are read one after the other, and a line that stops the reading;
* `shares`, `attributed` : all declarations that some lines make;
* `Reading.readLine_eq_ok_iff`, `Reading.readLine_eq_error_iff` : one step, from what the lines in
  front of it make; `Reading.readLines_eq_ok_iff` : the lines of a text up to some place;
* `Declarations.parse_iff_attributed` : what a text is read as, and where it is refused.
-/

namespace TopDown.Grammar

open Text

/-! ## Lines -/

theorem readHead_eq_some_iff {s name body : List Char} :
    readHead s = some (name, body) ↔ ∃ gap, s = name ++ (gap ++ '-' :: '>' :: body) ∧
      IsNonterminal name ∧ Gap gap := by
  constructor
  · intro h
    rw [readHead] at h
    split at h
    · cases h
    rename_i name' rest hread
    split at h
    · rename_i hskip
      cases h
      obtain ⟨rfl, hname⟩ := readNonterminal_eq_some hread
      obtain ⟨gap, hgap, hcut⟩ := exists_gap_append_skipGap rest
      rw [hskip] at hcut
      exact ⟨gap, by rw [← hcut], hname, hgap⟩
    · cases h
  · rintro ⟨gap, rfl, hname, hgap⟩
    have hstops : Stops (fun c => isNonterminalChar c || c == '\'')
        (gap ++ '-' :: '>' :: body) :=
      hgap.stops (by decide) (by decide) (stops_cons (by decide) _)
    rw [readHead, hname.read hstops]
    simp only [skipGap_append hgap (stops_cons (by decide : isGap '-' = false) _)]

/-- What a line says, by its text without the blanks at both ends. -/
inductive Line.Spells : Line → List Char → Prop
  | blank : Spells .skip []
  | comment (s : List Char) : Spells .skip ('#' :: s)
  | production {name gap : List Char} (named : IsNonterminal name) (between : Gap gap)
    (body : List Char) :
    Spells (.production (String.ofList name) body) (name ++ (gap ++ '-' :: '>' :: body))
  | continuation (body : List Char) : Spells (.continuation body) ('|' :: body)

/-- A line is read if and only if it has one of the four forms, and as what that form says. -/
theorem Line.read_eq_ok_iff {raw : List Char} {l : Line} :
    Line.read raw = .ok l ↔ l.Spells (trim raw) := by
  rw [Line.read]
  generalize trim raw = line
  constructor
  · intro h
    split at h
    · cases h
      exact .blank
    · cases h
      exact .comment _
    · split at h
      · rename_i hhead
        cases h
        obtain ⟨gap, rfl, hname, hgap⟩ := readHead_eq_some_iff.1 hhead
        exact .production hname hgap _
      · split at h
        · cases h
          exact .continuation _
        · cases h
  · intro h
    cases h with
    | blank => rfl
    | comment s => rfl
    | @production name gap hname hgap body =>
      have hhead : readHead (name ++ (gap ++ '-' :: '>' :: body)) = some (name, body) :=
        readHead_eq_some_iff.2 ⟨gap, rfl, hname, hgap⟩
      obtain ⟨c, t, prime, rfl, hc, -⟩ := hname
      rw [List.cons_append, List.cons_append] at hhead ⊢
      split
      · cases ‹_›
      · rename_i heq
        cases heq
        cases hc
      · rw [hhead]
    | continuation body => rfl

theorem Line.eq_missingArrow_of_read {raw : List Char} {fault : LineFault}
    (h : Line.read raw = .error fault) : fault = .missingArrow := by
  rw [Line.read] at h
  split at h
  · cases h
  · cases h
  · split at h
    · cases h
    · split at h
      · cases h
      · cases h
        rfl

/-- A line without a form is refused. -/
theorem Line.read_eq_error_iff {raw : List Char} {fault : LineFault} :
    Line.read raw = .error fault ↔ fault = .missingArrow ∧ ∀ l : Line, ¬ l.Spells (trim raw) := by
  constructor
  · intro h
    refine ⟨Line.eq_missingArrow_of_read h, fun l hl => ?_⟩
    cases h.symm.trans (Line.read_eq_ok_iff.2 hl)
  · rintro ⟨rfl, hnone⟩
    cases hread : Line.read raw with
    | ok l => exact absurd (Line.read_eq_ok_iff.1 hread) (hnone l)
    | error fault => rw [Line.eq_missingArrow_of_read hread]

/-- The left-hand side that a production line names. -/
def Line.lhs? : Line → Option String
  | .production lhs _ => some lhs
  | _ => none

/-- What stands behind the arrow or behind the bar of a line. -/
def Line.body? : Line → Option (List Char)
  | .skip => none
  | .production _ body => some body
  | .continuation body => some body

theorem Line.body?_eq_none_iff {l : Line} : l.body? = none ↔ l = .skip := by
  cases l <;> simp [body?]

/-- The alternatives of a line: the parts that its body is cut into, trimmed, none of them empty. -/
inductive Line.Offers (l : Line) : List String → Prop
  | skip (bodiless : l.body? = none) : Offers l []
  | body {body : List Char} {parts : List (List Char)} (hasBody : l.body? = some body)
    (cut : Cuts body parts []) (filled : ∀ part ∈ parts, trim part ≠ []) :
    Offers l (parts.map fun part => String.ofList (trim part))

theorem Line.offers_iff {l : Line} {body : List Char} (h : l.body? = some body)
    {texts : List String} : l.Offers texts ↔ alternativesOf body = .ok texts := by
  rw [alternativesOf_eq_ok_iff]
  constructor
  · intro ho
    cases ho with
    | skip hnone => cases h.symm.trans hnone
    | body hbody hcut hfilled =>
      cases h.symm.trans hbody
      exact ⟨_, hcut, hfilled, rfl⟩
  · rintro ⟨parts, hcut, hfilled, rfl⟩
    exact .body h hcut hfilled

/-! ## Attribution -/

/-- The left-hand side that the last of some lines belongs to: that of the nearest production line
at or in front of it. -/
def owner (ls : List Line) : Option String := (ls.filterMap Line.lhs?).getLast?

/-- The alternatives of a left-hand side: those of all lines that belong to it, in order. -/
def shares (ls : List Line) (tss : List (List String)) (lhs : String) : List Alternative :=
  tss.zipIdx.flatMap fun (texts, i) =>
    if owner (ls.take (i + 1)) = some lhs then texts.map (⟨i + 1, ·⟩) else []

/-- The declarations that some lines make with their alternatives: one for every left-hand side, in
order of the first production lines. -/
def attributed (ls : List Line) (tss : List (List String)) : Declarations :=
  (ls.filterMap Line.lhs?).eraseDups.map fun lhs =>
    ⟨lhs, ls.findIdx (·.lhs? = some lhs) + 1, shares ls tss lhs⟩

/-- The lines are read one after the other: every line has a form and its alternatives, and one with
alternatives belongs to a left-hand side. -/
inductive InOrder : List (List Char) → List Line → List (List String) → Prop
  | nil : InOrder [] [] []
  | snoc {raws : List (List Char)} {ls : List Line} {tss : List (List String)} {raw : List Char}
    {l : Line} {texts : List String} (init : InOrder raws ls tss) (spelled : l.Spells (trim raw))
    (offered : l.Offers texts) (owned : l.body? = none ∨ owner (ls ++ [l]) ≠ none) :
    InOrder (raws ++ [raw]) (ls ++ [l]) (tss ++ [texts])

/-- Why a line behind others is refused: it has no form, it belongs to no left-hand side, it cannot
be cut as a whole, or one of its alternatives is empty. -/
inductive Faulty (ls : List Line) (raw : List Char) : LineFault → Prop
  | malformed (formless : ∀ l : Line, ¬ l.Spells (trim raw)) : Faulty ls raw .missingArrow
  | dangling {l : Line} {body : List Char} (spelled : l.Spells (trim raw))
    (hasBody : l.body? = some body) (ownerless : owner (ls ++ [l]) = none) :
    Faulty ls raw .danglingAlternative
  | unsplit {l : Line} {body : List Char} (spelled : l.Spells (trim raw))
    (hasBody : l.body? = some body) (owned : owner (ls ++ [l]) ≠ none)
    (uncut : ¬ ∃ parts, Cuts body parts []) : Faulty ls raw .unterminatedQuote
  | empty {l : Line} {body : List Char} {parts : List (List Char)} {part : List Char}
    (spelled : l.Spells (trim raw)) (hasBody : l.body? = some body)
    (owned : owner (ls ++ [l]) ≠ none) (cut : Cuts body parts []) (mem : part ∈ parts)
    (blank : trim part = []) : Faulty ls raw .emptyAlternative

variable {ls : List Line} {tss : List (List String)} {l : Line} {lhs : String}

theorem owner_concat : owner (ls ++ [l]) = l.lhs?.or (owner ls) := by
  rw [owner, List.filterMap_append, List.getLast?_append]
  cases h : l.lhs? <;> simp [h, owner]

theorem mem_of_owner (h : owner ls = some lhs) : lhs ∈ ls.filterMap Line.lhs? :=
  List.mem_of_getLast? h

theorem InOrder.length_eq {raws : List (List Char)} (h : InOrder raws ls tss) :
    ls.length = raws.length ∧ tss.length = ls.length := by
  induction h with
  | nil => exact ⟨rfl, rfl⟩
  | snoc _ _ _ _ ih => simp [ih.1, ih.2]

/-- An alternative is a part of the body of its line, trimmed and not empty. -/
theorem InOrder.exists_part {raws : List (List Char)} (h : InOrder raws ls tss)
    {texts : List String} (htexts : texts ∈ tss) {text : String} (htext : text ∈ texts) :
    ∃ body parts part, Cuts body parts [] ∧ part ∈ parts ∧ trim part ≠ [] ∧
      text = String.ofList (trim part) := by
  induction h with
  | nil => cases htexts
  | snoc _ _ hoffers _ ih =>
    rcases List.mem_append.1 htexts with htexts | htexts
    · exact ih htexts
    · cases List.mem_singleton.1 htexts
      cases hoffers with
      | skip => cases htext
      | @body body parts _ hcut hfilled =>
        obtain ⟨part, hpart, rfl⟩ := List.mem_map.1 htext
        exact ⟨body, parts, part, hcut, hpart, hfilled part hpart, rfl⟩

/-- One more line adds its alternatives to its owner's. -/
theorem shares_concat (hlength : tss.length = ls.length) (l : Line) (texts : List String) :
    shares (ls ++ [l]) (tss ++ [texts]) lhs = shares ls tss lhs ++
      if owner (ls ++ [l]) = some lhs then texts.map (⟨ls.length + 1, ·⟩) else [] := by
  have hlast : (ls ++ [l]).take (ls.length + 1) = ls ++ [l] := List.take_of_length_le (by simp)
  rw [shares, List.zipIdx_append, List.flatMap_append, Nat.zero_add, hlength, List.zipIdx_singleton,
    List.flatMap_singleton]
  simp only [hlast]
  congr 1
  refine List.flatMap_congr fun texts' htexts => ?_
  have hi : texts'.2 + 1 ≤ ls.length := hlength ▸ List.snd_lt_of_mem_zipIdx htexts
  rw [List.take_append_of_le_length hi]

theorem shares_eq_nil (h : lhs ∉ ls.filterMap Line.lhs?) : shares ls tss lhs = [] := by
  refine List.flatMap_eq_nil_iff.2 fun texts _ => if_neg fun howner => h ?_
  exact ((List.take_sublist _ ls).filterMap _).subset (mem_of_owner howner)

theorem names_attributed : (attributed ls tss).names = (ls.filterMap Line.lhs?).eraseDups := by
  rw [Declarations.names, attributed, List.map_map]
  exact List.map_id _

/-- A line declares the left-hand side that it names, if it is new. -/
theorem attributed_concat_nil (hlength : tss.length = ls.length) (l : Line) :
    attributed (ls ++ [l]) (tss ++ [[]]) =
      l.lhs?.elim (attributed ls tss) ((attributed ls tss).declare · (ls.length + 1)) := by
  have hshares (lhs : String) : shares (ls ++ [l]) (tss ++ [[]]) lhs = shares ls tss lhs := by
    rw [shares_concat hlength]
    simp
  have hold : ∀ lhs ∈ (ls.filterMap Line.lhs?).eraseDups,
      (⟨lhs, (ls ++ [l]).findIdx (·.lhs? = some lhs) + 1, shares (ls ++ [l]) (tss ++ [[]]) lhs⟩ :
        Declaration) = ⟨lhs, ls.findIdx (·.lhs? = some lhs) + 1, shares ls tss lhs⟩ := by
    intro lhs hlhs
    obtain ⟨l', hl', hname⟩ := List.mem_filterMap.1 (List.mem_eraseDups.1 hlhs)
    rw [hshares, List.findIdx_append, if_pos]
    exact List.findIdx_lt_length_of_exists ⟨l', hl', by simpa using hname⟩
  cases hl : l.lhs? with
  | none =>
    rw [attributed, List.filterMap_append, List.filterMap_cons_none hl, List.filterMap_nil,
      List.append_nil]
    exact List.map_congr_left hold
  | some lhs =>
    have hnames : ((ls ++ [l]).filterMap Line.lhs?).eraseDups =
        addNew (ls.filterMap Line.lhs?).eraseDups lhs := by
      rw [List.filterMap_append, List.filterMap_cons_some hl, List.filterMap_nil,
        ← foldl_addNew_nil, List.foldl_append, foldl_addNew_nil]
      rfl
    have hany : (attributed ls tss).any (·.lhs = lhs) = true ↔
        lhs ∈ (ls.filterMap Line.lhs?).eraseDups := by
      have hnames : (attributed ls tss).names = (ls.filterMap Line.lhs?).eraseDups :=
        names_attributed
      rw [← hnames]
      simp [Declarations.names]
    rw [attributed, hnames, addNew, Option.elim_some, Declarations.declare]
    split
    · rw [if_pos (hany.2 ‹_›)]
      exact List.map_congr_left hold
    · rename_i hnew
      rw [if_neg (hany.not.2 hnew), List.map_append, List.map_congr_left hold, List.map_singleton]
      have hnew : lhs ∉ ls.filterMap Line.lhs? := List.mem_eraseDups.not.1 hnew
      have hfirst : (ls ++ [l]).findIdx (·.lhs? = some lhs) = ls.length := by
        rw [List.findIdx_append, if_neg]
        · simp [List.findIdx_cons, hl]
        · rw [List.findIdx_lt_length]
          rintro ⟨l', hl', hname⟩
          exact hnew (List.mem_filterMap.2 ⟨l', hl', by simpa using hname⟩)
      rw [hshares, shares_eq_nil hnew, hfirst]
      rfl

/-- Alternatives of a line are added to the left-hand side that it belongs to. -/
theorem attributed_concat (hlength : tss.length = ls.length) (howner : owner (ls ++ [l]) = some lhs)
    (texts : List String) : attributed (ls ++ [l]) (tss ++ [texts]) =
      (attributed (ls ++ [l]) (tss ++ [[]])).extend lhs (texts.map (⟨ls.length + 1, ·⟩)) := by
  rw [attributed, attributed, Declarations.extend, List.map_map]
  refine List.map_congr_left fun lhs' _ => ?_
  rw [Function.comp_apply, shares_concat hlength, shares_concat hlength, howner]
  by_cases hlhs : lhs = lhs'
  · simp [hlhs]
  · simp [hlhs, Ne.symm hlhs]

namespace Declarations

/-! ## Reading line by line -/

/-- What has been read after some lines. -/
def recorded (ls : List Line) (tss : List (List String)) : Reading :=
  ⟨attributed ls tss, owner ls⟩

variable {raw : List Char} {body : List Char} {r : Reading} {fault : LineFault}

theorem recorded_skip (hlength : tss.length = ls.length) :
    recorded (ls ++ [.skip]) (tss ++ [[]]) = recorded ls tss := by
  rw [recorded, recorded, attributed_concat_nil hlength, owner_concat]
  rfl

/-- The alternatives of a line are added behind those of all lines in front of it. -/
theorem Reading.add_recorded (hlength : tss.length = ls.length)
    (howner : owner (ls ++ [l]) = some lhs) :
    (recorded (ls ++ [l]) (tss ++ [[]])).add (ls.length + 1) lhs body =
      (alternativesOf body).map fun texts => recorded (ls ++ [l]) (tss ++ [texts]) := by
  rw [Reading.add]
  cases alternativesOf body with
  | error fault => rfl
  | ok texts =>
    simp only [Except.map, recorded, attributed_concat hlength howner texts, howner]

/-- A line with a body is read by adding its alternatives to its owner's. -/
theorem Reading.readLine_of_body (hlength : tss.length = ls.length)
    (hspells : l.Spells (trim raw)) (hbody : l.body? = some body) :
    (recorded ls tss).readLine (ls.length + 1) raw = if owner (ls ++ [l]) = none
      then .error .danglingAlternative
      else (alternativesOf body).map fun texts => recorded (ls ++ [l]) (tss ++ [texts]) := by
  rw [Reading.readLine, Line.read_eq_ok_iff.2 hspells]
  cases l with
  | skip => cases hbody
  | production lhs body =>
    cases hbody
    have howner : owner (ls ++ [.production lhs body]) = some lhs := owner_concat
    have hrecorded : recorded (ls ++ [.production lhs body]) (tss ++ [[]]) =
        ⟨(attributed ls tss).declare lhs (ls.length + 1), some lhs⟩ := by
      rw [recorded, attributed_concat_nil hlength, howner]
      rfl
    rw [if_neg (by simp [howner]), ← add_recorded hlength howner, hrecorded]
    rfl
  | continuation body =>
    cases hbody
    have howner : owner (ls ++ [.continuation body]) = owner ls := owner_concat
    have hrecorded : recorded (ls ++ [.continuation body]) (tss ++ [[]]) = recorded ls tss := by
      rw [recorded, recorded, attributed_concat_nil hlength, howner]
      rfl
    cases h : owner ls with
    | none => simp only [recorded, howner, h, if_true]
    | some lhs =>
      rw [h] at howner
      rw [if_neg (by simp [howner]), ← add_recorded hlength howner, hrecorded]
      simp only [recorded, h]

/-- One more line is read if it has a form and alternatives and belongs to a left-hand side. -/
theorem Reading.readLine_eq_ok_iff (hlength : tss.length = ls.length) :
    (recorded ls tss).readLine (ls.length + 1) raw = .ok r ↔ ∃ l texts,
      l.Spells (trim raw) ∧ l.Offers texts ∧ (l.body? = none ∨ owner (ls ++ [l]) ≠ none) ∧
        r = recorded (ls ++ [l]) (tss ++ [texts]) := by
  constructor
  · intro h
    cases hread : Line.read raw with
    | error fault =>
      rw [Reading.readLine, hread] at h
      cases h
    | ok l =>
      have hspells := Line.read_eq_ok_iff.1 hread
      cases hbody : l.body? with
      | none =>
        obtain rfl := Line.body?_eq_none_iff.1 hbody
        rw [Reading.readLine, hread] at h
        cases h
        exact ⟨.skip, [], hspells, .skip rfl, .inl rfl, (recorded_skip hlength).symm⟩
      | some body =>
        rw [readLine_of_body hlength hspells hbody] at h
        split at h
        · cases h
        · rename_i howner
          cases htexts : alternativesOf body with
          | error fault =>
            rw [htexts] at h
            cases h
          | ok texts =>
            rw [htexts] at h
            cases h
            exact ⟨l, texts, hspells, (Line.offers_iff hbody).2 htexts, .inr howner, rfl⟩
  · rintro ⟨l, texts, hspells, hoffers, howned, rfl⟩
    cases hbody : l.body? with
    | none =>
      obtain rfl := Line.body?_eq_none_iff.1 hbody
      cases hoffers with
      | skip _ => rw [Reading.readLine, Line.read_eq_ok_iff.2 hspells, recorded_skip hlength]
      | body hbody' _ _ => cases hbody'
    | some body =>
      rw [readLine_of_body hlength hspells hbody, if_neg (howned.resolve_left (by simp [hbody])),
        (Line.offers_iff hbody).1 hoffers]
      rfl

/-- One more line is refused if it is faulty, and for its fault. -/
theorem Reading.readLine_eq_error_iff (hlength : tss.length = ls.length) :
    (recorded ls tss).readLine (ls.length + 1) raw = .error fault ↔ Faulty ls raw fault := by
  constructor
  · intro h
    cases hread : Line.read raw with
    | error fault' =>
      rw [Reading.readLine, hread] at h
      cases h
      obtain ⟨rfl, hnone⟩ := Line.read_eq_error_iff.1 hread
      exact .malformed hnone
    | ok l =>
      have hspells := Line.read_eq_ok_iff.1 hread
      cases hbody : l.body? with
      | none =>
        obtain rfl := Line.body?_eq_none_iff.1 hbody
        rw [Reading.readLine, hread] at h
        cases h
      | some body =>
        rw [readLine_of_body hlength hspells hbody] at h
        split at h
        · cases h
          exact .dangling hspells hbody ‹_›
        · rename_i howner
          cases htexts : alternativesOf body with
          | ok texts =>
            rw [htexts] at h
            cases h
          | error fault' =>
            rw [htexts] at h
            cases h
            rcases alternativesOf_eq_error_iff.1 htexts with
              ⟨rfl, huncut⟩ | ⟨rfl, parts, hcut, part, hpart, hblank⟩
            · exact .unsplit hspells hbody howner huncut
            · exact .empty hspells hbody howner hcut hpart hblank
  · intro h
    cases h with
    | malformed hnone => rw [Reading.readLine, Line.read_eq_error_iff.2 ⟨rfl, hnone⟩]
    | dangling hspells hbody howner => rw [readLine_of_body hlength hspells hbody, if_pos howner]
    | unsplit hspells hbody howner huncut =>
      rw [readLine_of_body hlength hspells hbody, if_neg howner,
        alternativesOf_eq_error_iff.2 (.inl ⟨rfl, huncut⟩)]
      rfl
    | empty hspells hbody howner hcut hpart hblank =>
      rw [readLine_of_body hlength hspells hbody, if_neg howner,
        alternativesOf_eq_error_iff.2 (.inr ⟨rfl, _, hcut, _, hpart, hblank⟩)]
      rfl

/-! ## Texts -/

/-- The lines of a text up to some place are read if and only if they are in order, and then what
they make has been read. -/
theorem Reading.readLines_eq_ok_iff {s : List Char} {front back : List (Nat × List Char)}
    (h : numberedLines s = front ++ back) :
    front.foldlM readNumbered ⟨[], none⟩ = .ok r ↔
      ∃ ls tss, InOrder (front.map Prod.snd) ls tss ∧ r = recorded ls tss := by
  induction front using List.reverseRecOn generalizing back r with
  | nil =>
    constructor
    · intro hr
      cases hr
      exact ⟨[], [], .nil, rfl⟩
    · rintro ⟨ls, tss, hlines, rfl⟩
      generalize hraws : List.map Prod.snd [] = raws at hlines
      cases hlines with
      | nil => rfl
      | snoc => exact absurd hraws.symm (by simp)
  | append_singleton front line ih =>
    rw [List.append_assoc] at h
    have hnumber := (lines_of_numberedLines h).2
    rw [foldlM_concat_eq_ok, List.map_append, List.map_singleton]
    constructor
    · rintro ⟨r', hfront, hline⟩
      obtain ⟨ls, tss, hlines, rfl⟩ := (ih h).1 hfront
      obtain ⟨hls, htss⟩ := hlines.length_eq
      rw [List.length_map] at hls
      rw [readNumbered_eq_ok, hnumber, ← hls, readLine_eq_ok_iff htss] at hline
      obtain ⟨l, texts, hspells, hoffers, howned, rfl⟩ := hline
      exact ⟨_, _, hlines.snoc hspells hoffers howned, rfl⟩
    · rintro ⟨ls', tss', hlines, rfl⟩
      generalize hraws : front.map Prod.snd ++ [line.2] = raws at hlines
      cases hlines with
      | nil => exact absurd hraws (by simp)
      | @snoc raws ls tss raw l texts hlines hspells hoffers howned =>
        obtain ⟨rfl, hraw⟩ := List.append_inj' hraws rfl
        cases hraw
        obtain ⟨hls, htss⟩ := hlines.length_eq
        rw [List.length_map] at hls
        refine ⟨_, (ih h).2 ⟨ls, tss, hlines, rfl⟩, ?_⟩
        rw [readNumbered_eq_ok, hnumber, ← hls, readLine_eq_ok_iff htss]
        exact ⟨l, texts, hspells, hoffers, howned, rfl⟩

theorem Reading.readNumbered_eq_error {line : Nat × List Char} {e : SpecError} :
    r.readNumbered line = .error e ↔ ∃ fault, r.readLine line.1 line.2 = .error fault ∧
      e = .grammar line.1 (String.ofList line.2) fault := by
  unfold Reading.readNumbered
  cases r.readLine line.1 line.2 with
  | ok r => simp
  | error fault => simp [eq_comm]

variable {text : String} {ds : Declarations} {e : SpecError}

theorem parse_eq_ok_iff_attributed : Declarations.parse text = .ok ds ↔
    ∃ ls tss, InOrder (lines text.toList) ls tss ∧ ds = attributed ls tss := by
  have hall := (List.append_nil (numberedLines text.toList)).symm
  simp only [parse_eq_ok_iff, Reading.readLines_eq_ok_iff hall, map_snd_numberedLines]
  constructor
  · rintro ⟨r, ⟨ls, tss, hlines, rfl⟩, rfl⟩
    exact ⟨ls, tss, hlines, rfl⟩
  · rintro ⟨ls, tss, hlines, rfl⟩
    exact ⟨_, ⟨ls, tss, hlines, rfl⟩, rfl⟩

/-- An alternative that is declared is a part of a body, trimmed and not empty. -/
theorem exists_part_of_parse (h : Declarations.parse text = .ok ds) {d : Declaration} (hd : d ∈ ds)
    {a : Alternative} (ha : a ∈ d.alternatives) : ∃ body parts part, Cuts body parts [] ∧
      part ∈ parts ∧ trim part ≠ [] ∧ a.text = String.ofList (trim part) := by
  obtain ⟨ls, tss, hlines, rfl⟩ := parse_eq_ok_iff_attributed.1 h
  obtain ⟨lhs, -, rfl⟩ := List.mem_map.1 hd
  obtain ⟨⟨texts, i⟩, htexts, ha⟩ := List.mem_flatMap.1 ha
  simp only at ha
  split at ha
  · obtain ⟨text, htext, rfl⟩ := List.mem_map.1 ha
    exact hlines.exists_part (List.fst_mem_of_mem_zipIdx htexts) htext
  · cases ha

/-- A text is refused for its first faulty line. -/
theorem parse_eq_error_iff : Declarations.parse text = .error e ↔
    ∃ before raw after ls tss fault, lines text.toList = before ++ raw :: after ∧
      InOrder before ls tss ∧ Faulty ls raw fault ∧
        e = .grammar (before.length + 1) (String.ofList raw) fault := by
  have hparse : Declarations.parse text = .error e ↔
      (numberedLines text.toList).foldlM Reading.readNumbered ⟨[], none⟩ = .error e := by
    unfold Declarations.parse
    cases (numberedLines text.toList).foldlM Reading.readNumbered ⟨[], none⟩ <;> simp
  rw [hparse, foldlM_eq_error]
  constructor
  · rintro ⟨before, line, after, r, hnumbered, hbefore, hline⟩
    obtain ⟨hlines, hnumber⟩ := lines_of_numberedLines hnumbered
    obtain ⟨ls, tss, horder, rfl⟩ := (Reading.readLines_eq_ok_iff hnumbered).1 hbefore
    obtain ⟨fault, hfault, rfl⟩ := Reading.readNumbered_eq_error.1 hline
    obtain ⟨hls, htss⟩ := horder.length_eq
    rw [List.length_map] at hls
    rw [hnumber, ← hls, Reading.readLine_eq_error_iff htss] at hfault
    exact ⟨_, _, _, ls, tss, fault, hlines, horder, hfault, by rw [hnumber, List.length_map]⟩
  · rintro ⟨before, raw, after, ls, tss, fault, hlines, horder, hfault, rfl⟩
    obtain ⟨front, back, hnumbered, rfl⟩ := numberedLines_of_lines hlines
    obtain ⟨hls, htss⟩ := horder.length_eq
    refine ⟨front, _, back, _, hnumbered,
      (Reading.readLines_eq_ok_iff hnumbered).2 ⟨ls, tss, horder, rfl⟩,
      Reading.readNumbered_eq_error.2 ⟨fault, ?_, rfl⟩⟩
    rw [← hls]
    exact (Reading.readLine_eq_error_iff htss).2 hfault

/-- A text is read if and only if its lines are in order, and then every alternative is declared
once, for the left-hand side that its line belongs to. The left-hand sides differ, stand in order of
their first production lines and have an alternative each. Otherwise the fault is that of the first
line that does not go on from those in front of it. -/
theorem parse_iff_attributed (text : String) :
    (∀ ds, Declarations.parse text = .ok ds ↔ ∃ ls tss,
      InOrder (lines text.toList) ls tss ∧ ds = attributed ls tss ∧
        ds.names.Nodup ∧ ∀ d ∈ ds, d.alternatives ≠ []) ∧
    ∀ e, Declarations.parse text = .error e ↔ ∃ before raw after ls tss fault,
      lines text.toList = before ++ raw :: after ∧ InOrder before ls tss ∧ Faulty ls raw fault ∧
        e = .grammar (before.length + 1) (String.ofList raw) fault := by
  refine ⟨fun ds => ⟨fun h => ?_, ?_⟩, fun e => parse_eq_error_iff⟩
  · obtain ⟨ls, tss, hlines, rfl⟩ := parse_eq_ok_iff_attributed.1 h
    obtain ⟨hnames, hfilled⟩ := of_parse h
    exact ⟨ls, tss, hlines, rfl, hnames ▸ nodup_foldl_addNew _ List.nodup_nil, hfilled⟩
  · rintro ⟨ls, tss, hlines, rfl, -, -⟩
    exact parse_eq_ok_iff_attributed.2 ⟨ls, tss, hlines, rfl⟩

/-- `A` is opened again behind `B`, whose continuation line holds a bar in a literal. -/
def reopened : String := "A -> \"x\" | B\nB -> A'\n  | '|' | A\n# A\n\nA->B"

theorem parse_iff_attributed_reopened : ∃ ls tss, InOrder (lines reopened.toList) ls tss ∧
    attributed ls tss = [⟨"A", 1, [⟨1, "\"x\""⟩, ⟨1, "B"⟩, ⟨6, "B"⟩]⟩,
      ⟨"B", 2, [⟨2, "A'"⟩, ⟨3, "'|'"⟩, ⟨3, "A"⟩]⟩] := by
  have hparse : Declarations.parse reopened = .ok [⟨"A", 1, [⟨1, "\"x\""⟩, ⟨1, "B"⟩, ⟨6, "B"⟩]⟩,
      ⟨"B", 2, [⟨2, "A'"⟩, ⟨3, "'|'"⟩, ⟨3, "A"⟩]⟩] := by
    decide +kernel
  obtain ⟨ls, tss, hlines, hds, -⟩ := ((parse_iff_attributed reopened).1 _).1 hparse
  exact ⟨ls, tss, hlines, hds.symm⟩

end Declarations

end TopDown.Grammar
