import Mathlib.Data.List.Basic
import Mathlib.Tactic.Common

/-! # Codes that end by themselves

Values are written one after the other, and what is written can be taken apart in one way. -/

namespace Libvalkey.Codes

variable {α Symbol : Type} {code : α → List Symbol}

/-- The code of a value shows where it ends. -/
def SelfDelimiting (code : α → List Symbol) : Prop :=
  ∀ first second rest others, code first ++ rest = code second ++ others →
    first = second ∧ rest = others

/-- A text that does not have the symbol which it is ended by. -/
theorem terminated_inj {symbol : Symbol} {text other rest others : List Symbol}
    (absent : symbol ∉ text) (absentOther : symbol ∉ other)
    (same : text ++ symbol :: rest = other ++ symbol :: others) :
    text = other ∧ rest = others := by
  induction text generalizing other with
  | nil =>
      cases other with
      | nil => exact ⟨rfl, (List.cons.inj same).2⟩
      | cons head other =>
          obtain ⟨rfl, _⟩ := List.cons.inj same
          exact absurd List.mem_cons_self absentOther
  | cons head text induction =>
      cases other with
      | nil =>
          obtain ⟨rfl, _⟩ := List.cons.inj same
          exact absurd List.mem_cons_self absent
      | cons otherHead other =>
          obtain ⟨rfl, tails⟩ := List.cons.inj same
          obtain ⟨rfl, behind⟩ := induction (fun member => absent (List.mem_cons_of_mem _ member))
            (fun member => absentOther (List.mem_cons_of_mem _ member)) tails
          exact ⟨rfl, behind⟩

/-- As many values, one after the other. -/
theorem SelfDelimiting.flatMap_inj (delimits : SelfDelimiting code) {values others : List α}
    (counts : values.length = others.length) {rest more : List Symbol}
    (same : values.flatMap code ++ rest = others.flatMap code ++ more) :
    values = others ∧ rest = more := by
  induction values generalizing others with
  | nil =>
      obtain rfl := List.eq_nil_of_length_eq_zero counts.symm
      exact ⟨rfl, same⟩
  | cons value values induction =>
      cases others with
      | nil => cases counts
      | cons other others =>
          rw [List.flatMap_cons, List.flatMap_cons, List.append_assoc, List.append_assoc] at same
          obtain ⟨rfl, behind⟩ := delimits _ _ _ _ same
          obtain ⟨rfl, left⟩ := induction (Nat.succ.inj counts) behind
          exact ⟨rfl, left⟩

/-- Values that are written completely come first. -/
theorem SelfDelimiting.prefix_of_flatMap (delimits : SelfDelimiting code)
    (some : ∀ value, code value ≠ []) {values others : List α}
    (written : values.flatMap code <+: others.flatMap code) : values <+: others := by
  induction values generalizing others with
  | nil => exact List.nil_prefix
  | cons value values induction =>
      obtain ⟨rest, same⟩ := written
      rw [List.flatMap_cons, List.append_assoc] at same
      cases others with
      | nil =>
          rw [List.flatMap_nil] at same
          exact absurd (List.append_eq_nil_iff.mp same).1 (some value)
      | cons other others =>
          rw [List.flatMap_cons] at same
          obtain ⟨rfl, behind⟩ := delimits _ _ _ _ same
          exact List.prefix_cons_inj _ |>.mpr (induction ⟨rest, behind⟩)

end Libvalkey.Codes
