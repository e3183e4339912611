import TopDown.Emission.Support
import TopDown.Emission.Tables

/-!
# Emitted source in fragments

* `Fragments` : a parser that is being written out. `Fragments.next` gives out a header, one opening
  line a module, the tables, the fixed part, and the closing braces of the modules, if there are any;
* `Parser.fragments`, `Parser.source` : all that is given out, and the text that it makes up;
* `emit` : the parser for a grammar, once the names and the table are found in order.
-/

namespace TopDown.Emission

def header : String := "// Generated by llgen. Do not edit.\n\n"

/-- The line that opens a module at `depth`. -/
def openModule (depth : Nat) (name : String) : String :=
  spaces (indentWidth * depth) ++ "pub mod " ++ name ++ " \x7b\n"

/-- The braces that close `n` modules, innermost first. -/
def closeModules (n : Nat) : String :=
  String.join ((List.range n).reverse.map fun depth => spaces (indentWidth * depth) ++ "\x7d\n")

def tablesFragment (t : Tables) (depth : Nat) : String := indentText depth t.render ++ "\n"

def supportFragment (name : String) (depth : Nat) : String := indentText depth (support name)

/-- A parser that is ready to be written out. -/
structure Parser where
  tables : Tables
  name : String
  modules : List String
  deriving DecidableEq

/-- What is to be written next. -/
inductive Stage where
  | header
  /-- A module at a depth. The modules `inner` are to be opened inside it. -/
  | opening (depth : Nat) (name : String) (inner : List String)
  | tables
  | support
  | closing
  | done

/-- The stage in which modules are still to be opened, from a depth on. -/
def Stage.inside (depth : Nat) : List String → Stage
  | [] => tables
  | name :: inner => opening depth name inner

/-- A parser that is being written out. -/
structure Fragments where
  parser : Parser
  stage : Stage := .header

namespace Fragments

/-- The next fragment and what is left behind it, unless all is written. -/
def next (f : Fragments) : Option (String × Fragments) :=
  let p := f.parser
  let modules := p.modules
  match f.stage with
  | .header => some (header, ⟨p, .inside 0 modules⟩)
  | .opening depth name inner => some (openModule depth name, ⟨p, .inside (depth + 1) inner⟩)
  | .tables => some (tablesFragment p.tables modules.length, ⟨p, .support⟩)
  | .support =>
    some (supportFragment p.name modules.length, ⟨p, if modules.isEmpty then .done else .closing⟩)
  | .closing => some (closeModules modules.length, ⟨p, .done⟩)
  | .done => none

/-- How many fragments are left at most. -/
def fuel (f : Fragments) : Nat :=
  match f.stage with
  | .header => f.parser.modules.length + 4
  | .opening _ _ inner => inner.length + 4
  | .tables => 3
  | .support => 2
  | .closing => 1
  | .done => 0

theorem fuel_inside (p : Parser) (depth : Nat) (modules : List String) :
    (Fragments.mk p (.inside depth modules)).fuel = modules.length + 3 := by
  cases modules <;> rfl

theorem fuel_next {f f' : Fragments} {s : String} (h : f.next = some (s, f')) :
    f'.fuel < f.fuel := by
  obtain ⟨p, stage⟩ := f
  cases stage with
  | header =>
    cases h
    rw [fuel_inside]
    exact Nat.lt_succ_self _
  | opening depth name inner =>
    cases h
    rw [fuel_inside]
    exact Nat.lt_succ_self _
  | tables =>
    cases h
    exact Nat.lt_succ_self 2
  | support =>
    cases h
    cases p.modules.isEmpty
    · simp [fuel]
    · simp [fuel]
  | closing =>
    cases h
    exact Nat.lt_succ_self 0
  | done => cases h

/-- All that is left, in order. -/
def toList (f : Fragments) : List String :=
  match h : f.next with
  | none => []
  | some (s, f') =>
    have := fuel_next h
    s :: f'.toList
termination_by f.fuel

end Fragments

def Parser.fragments (p : Parser) : List String := (Fragments.mk p .header).toList

def Parser.source (p : Parser) : String := String.join p.fragments

/-- Checks the parser's name, the module path, the table and the rules, in this order. -/
def emit (g : Grammar) (x : Lexicon) (t : Table) (name path : String) :
    Except EmitError Parser := do
  let name ← parserName name
  let modules ← modulePath path
  let conflicts := t.conflicts.length
  if 0 < conflicts then throw (.nondeterministic conflicts)
  let rows ← ruleRows g x
  return ⟨Tables.of g rows t, name, modules⟩

end TopDown.Emission
