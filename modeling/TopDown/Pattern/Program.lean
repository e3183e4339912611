import TopDown.Pattern.Expr

/-!
# Programs for pattern expressions

An expression is compiled into a program whose paths, taken in order of preference, are the ways
to match it. A loop over an expression that may match the empty text is entered through a choice
of its own, so that an empty turn is tried in its proper place and never repeated.

* `Instr` : one instruction, with the instructions to go on with;
* `Expr.compile` : adds the instructions of an expression that are to be followed by instruction
  `next`, and gives the one to enter at;
* `Program.ofExpr` : the program of an expression.
-/

namespace TopDown.Pattern

/-- An instruction. The targets are numbers of instructions. -/
inductive Instr where
  | accept
  | one (s : CharSet) (next : Nat)
  | test (l : Look) (next : Nat)
  /-- Go on with `first`, and with `second` if that leads nowhere. -/
  | choose (first second : Nat)

abbrev Code := Array Instr

/-- A choice between going through a loop's body and leaving it. -/
def Instr.turn (greedy : Bool) (body exit : Nat) : Instr :=
  if greedy then .choose body exit else .choose exit body

/-- Adds an instruction and gives its number. -/
def emitInstr (i : Instr) (code : Code) : Nat × Code := (code.size, code.push i)

/-- Adds `body` before `next`, `n` times over. -/
def compileTimes (body : Nat → Code → Nat × Code) : Nat → Nat → Code → Nat × Code
  | 0, next, code => (next, code)
  | n + 1, next, code =>
    let (entry, code) := body next code
    compileTimes body n entry code

/-- Adds up to `n` optional turns of `body`, each of which may leave for `exit`. -/
def compileOptional (body : Nat → Code → Nat × Code) (greedy : Bool) (exit : Nat) :
    Nat → Nat → Code → Nat × Code
  | 0, next, code => (next, code)
  | n + 1, next, code =>
    let (entry, code) := body next code
    let (turn, code) := emitInstr (.turn greedy entry exit) code
    compileOptional body greedy exit n turn code

/-- Adds one or more turns of `body`: the entry of the body and the code. -/
def compilePlus (body : Nat → Code → Nat × Code) (greedy : Bool) (exit : Nat) (code : Code) :
    Nat × Code :=
  let (turn, code) := emitInstr .accept code
  let (entry, code) := body turn code
  (entry, code.setIfInBounds turn (.turn greedy entry exit))

/-- Adds instructions that read these characters. -/
def compileLiteral : List Char → Nat → Code → Nat × Code
  | [], next, code => (next, code)
  | c :: cs, next, code =>
    let (entry, code) := compileLiteral cs next code
    emitInstr (.one (.ofChar c) entry) code

mutual

def Expr.compile : Expr → Nat → Code → Nat × Code
  | .empty, next, code => (next, code)
  | .literal cs, next, code => compileLiteral cs next code
  | .set s, next, code => emitInstr (.one s next) code
  | .look l, next, code => emitInstr (.test l next) code
  | .group e, next, code => e.compile next code
  | .cat es, next, code => compileSequence es next code
  | .alt es, next, code => compileChoice es next code
  | .loop e min max greedy, next, code =>
    match max with
    | some max =>
      let (entry, code) := compileOptional e.compile greedy next (max - min) next code
      compileTimes e.compile min entry code
    | none =>
      match min with
      | 0 =>
        if e.consumes then
          let (turn, code) := emitInstr .accept code
          let (entry, code) := e.compile turn code
          (turn, code.setIfInBounds turn (.turn greedy entry next))
        else
          let (entry, code) := compilePlus e.compile greedy next code
          emitInstr (.turn greedy entry next) code
      | n + 1 =>
        let (entry, code) := compilePlus e.compile greedy next code
        compileTimes e.compile n entry code

def compileSequence : List Expr → Nat → Code → Nat × Code
  | [], next, code => (next, code)
  | e :: es, next, code =>
    let (entry, code) := compileSequence es next code
    e.compile entry code

/-- Adds a choice between branches; between none there is nothing to match. -/
def compileChoice : List Expr → Nat → Code → Nat × Code
  | [], next, code => emitInstr (.one [] next) code
  | [e], next, code => e.compile next code
  | e :: es, next, code =>
    let (second, code) := compileChoice es next code
    let (first, code) := e.compile next code
    emitInstr (.choose first second) code

end

/-- Instructions and where to start. -/
structure Program where
  code : Code
  entry : Nat
  /-- Matches begin at the start of the text only. -/
  isAnchored : Bool

def Program.ofExpr (e : Expr) : Program :=
  let (entry, code) := e.compile 0 #[.accept]
  ⟨code, entry, e.startsAtStart⟩

end TopDown.Pattern
