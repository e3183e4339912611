import Mathlib.Data.List.Nodup
import TopDown.Lexicon.Basic

/-!
# Names at their first appearance

Names are added one by one to those that are known. So the known ones stay distinct, and each has
the place of its first appearance.

* `foldl_addNew` : adding new names one by one drops all but the first appearances;
* `nodup_foldl_addNew`, `foldl_addNew_of_nodup` : this leaves distinct names, and leaves names that
  are distinct as they are;
* `Lexicon.mem_terminalNames`, `Lexicon.nodup_terminalNames` : the terminals of a lexicon.
-/

namespace TopDown

theorem foldl_addNew (names seen : List String) :
    names.foldl addNew seen = seen ++ (names.removeAll seen).eraseDups := by
  induction names generalizing seen with
  | nil => simp
  | cons name names ih =>
    rw [List.foldl_cons, ih, addNew]
    by_cases hname : name ∈ seen
    · simp [hname, List.removeAll]
    · -- the name itself must not be added a second time
      have hremove : names.removeAll (seen ++ [name]) =
          (names.removeAll seen).filter fun n => !n == name := by
        rw [List.removeAll, List.removeAll, List.filter_filter]
        refine List.filter_congr fun n _ => ?_
        simp [Bool.and_comm, beq_eq_decide]
      have hcons : (name :: names).removeAll seen = name :: names.removeAll seen := by
        simp [List.removeAll, hname]
      rw [if_neg hname, hremove, hcons, List.eraseDups_cons, List.append_assoc,
        List.singleton_append]

theorem foldl_addNew_nil (names : List String) : names.foldl addNew [] = names.eraseDups := by
  rw [foldl_addNew, List.nil_append, List.removeAll]
  simp

theorem nodup_addNew {names : List String} (h : names.Nodup) (name : String) :
    (addNew names name).Nodup := by
  unfold addNew
  split
  · exact h
  · rename_i hname
    exact List.concat_eq_append ▸ h.concat hname

theorem nodup_foldl_addNew (names : List String) {seen : List String} (h : seen.Nodup) :
    (names.foldl addNew seen).Nodup := by
  induction names generalizing seen with
  | nil => exact h
  | cons name names ih => exact ih (nodup_addNew h name)

/-- Names that are distinct already stay as they are. -/
theorem foldl_addNew_of_nodup {names seen : List String} (h : (seen ++ names).Nodup) :
    names.foldl addNew seen = seen ++ names := by
  induction names generalizing seen with
  | nil => rw [List.append_nil]; rfl
  | cons name names ih =>
    have hname : name ∉ seen := fun hmem =>
      (List.nodup_append.1 h).2.2 name hmem name List.mem_cons_self rfl
    rw [List.append_cons] at h ⊢
    rw [List.foldl_cons, addNew, if_neg hname, ih h]

namespace Lexicon

variable (x : Lexicon)

theorem terminalNames_eq : x.terminalNames = (x.rules.filterMap Rule.terminal?).eraseDups :=
  foldl_addNew_nil _

theorem nodup_terminalNames : x.terminalNames.Nodup := nodup_foldl_addNew _ List.nodup_nil

/-- The terminal of every rule is among those of its lexicon. -/
theorem mem_terminalNames {r : Rule} {name : String} (hr : r ∈ x.rules)
    (hname : r.terminal? = some name) : name ∈ x.terminalNames := by
  rw [terminalNames_eq, List.mem_eraseDups]
  exact List.mem_filterMap.2 ⟨r, hr, hname⟩

end Lexicon

end TopDown
