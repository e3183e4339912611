/-!
# Quoted texts

A quoted text stands between two quotes `q`. Inside it a backslash takes the character after it
along, so neither an escaped quote nor an escaped backslash ends the text.

* `Quoted.inside q s` : the text up to the closing quote and what follows that quote, for an `s`
  that starts behind the opening quote;
* `Quoted.read q s` : the same for an `s` that starts with the opening quote;
* `unescape` : every backslash dropped, the character after it kept;
* `escape` : a backslash put in front of every backslash and every double quote.
-/

namespace TopDown.Text

namespace Quoted

/-- The text up to the first unescaped `q`, verbatim, and the rest after that `q`. -/
def inside (q : Char) : List Char → Option (List Char × List Char)
  | [] => none
  | '\\' :: c :: s => (inside q s).map fun (t, rest) => ('\\' :: c :: t, rest)
  | c :: s =>
    if c = q then some ([], s)
    else if c = '\\' then none
    else (inside q s).map fun (t, rest) => (c :: t, rest)

/-- A quoted text at the start of `s`: its content, verbatim, and what follows it. -/
def read (q : Char) : List Char → Option (List Char × List Char)
  | [] => none
  | c :: s => if c = q then inside q s else none

theorem length_inside {q : Char} {s t rest : List Char} (h : inside q s = some (t, rest)) :
    t.length + rest.length + 1 = s.length := by
  fun_induction inside q s generalizing t with
  | case1 => simp at h
  | case2 c s ih =>
    obtain ⟨⟨u, r⟩, hu, he⟩ := Option.map_eq_some_iff.1 h
    simp only [Prod.mk.injEq] at he
    obtain ⟨rfl, rfl⟩ := he
    have := ih hu
    simp only [List.length_cons]
    omega
  | case3 c s =>
    simp only [Option.some.injEq, Prod.mk.injEq] at h
    obtain ⟨rfl, rfl⟩ := h
    simp
  | case4 => simp at h
  | case5 c s _ _ _ ih =>
    obtain ⟨⟨u, r⟩, hu, he⟩ := Option.map_eq_some_iff.1 h
    simp only [Prod.mk.injEq] at he
    obtain ⟨rfl, rfl⟩ := he
    have := ih hu
    simp only [List.length_cons]
    omega

/-- Reading a quoted text takes its content and two quotes off the input. -/
theorem length_read {q : Char} {s t rest : List Char} (h : read q s = some (t, rest)) :
    t.length + rest.length + 2 = s.length := by
  cases s with
  | nil => simp [read] at h
  | cons c s =>
    simp only [read] at h
    split at h
    · have := length_inside h
      simp only [List.length_cons]
      omega
    · simp at h

end Quoted

def unescape : List Char → List Char
  | [] => []
  | ['\\'] => []
  | '\\' :: c :: s => c :: unescape s
  | c :: s => c :: unescape s

def escape : List Char → List Char
  | [] => []
  | c :: s => if c = '\\' ∨ c = '"' then '\\' :: c :: escape s else c :: escape s

/-- True when a double quote is left open at the end of `s`; `isOpen` says whether one is open at
its start. Outside quotes a backslash has no meaning. -/
def leavesQuoteOpen (isOpen : Bool) : List Char → Bool
  | [] => isOpen
  | [c] => if c = '"' then !isOpen else isOpen
  | c :: d :: s =>
    if c = '\\' && isOpen then leavesQuoteOpen isOpen s
    else if c = '"' then leavesQuoteOpen (!isOpen) (d :: s)
    else leavesQuoteOpen isOpen (d :: s)

end TopDown.Text
