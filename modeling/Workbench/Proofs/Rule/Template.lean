import Workbench.Rule.Template

set_option autoImplicit false

namespace Workbench.Template

theorem expandFrom_append {plain : List Char} (free : '$' ∉ plain) (groups : Option Groups)
    (rest : List Char) :
    expandFrom groups none (plain ++ rest) = plain ++ expandFrom groups none rest := by
  induction plain with
  | nil => rfl
  | cons char others ih =>
      simp only [List.mem_cons, not_or] at free
      obtain ⟨other, behind⟩ := free
      rw [List.cons_append, expandFrom]
      simp [Ne.symm other, ih behind]

theorem expand_append {plain : List Char} (free : '$' ∉ plain) (rest : List Char)
    (groups : Option Groups) : expand (plain ++ rest) groups = plain ++ expand rest groups :=
  expandFrom_append free groups rest

theorem expand_of_plain {plain : List Char} (free : '$' ∉ plain) (groups : Option Groups) :
    expand plain groups = plain := by
  have whole := expand_append free [] groups
  rwa [List.append_nil, show expand [] groups = [] from rfl, List.append_nil] at whole

def named : List Char → List (List Char)
  | [] => []
  | char :: rest =>
      let digits := rest.takeWhile Char.isDigit
      if char = '$' ∧ digits ≠ [] then digits :: named rest else named rest

theorem named_append {plain : List Char} (free : '$' ∉ plain) (rest : List Char) :
    named (plain ++ rest) = named rest := by
  induction plain with
  | nil => rfl
  | cons char others ih =>
      rw [List.mem_cons, not_or] at free
      rw [List.cons_append, named, if_neg fun dollar => free.1 dollar.1.symm, ih free.2]

theorem named_cons_congr {rest other : List Char} (same : named rest = named other)
    (digits : rest.takeWhile Char.isDigit = other.takeWhile Char.isDigit) (char : Char) :
    named (char :: rest) = named (char :: other) := by
  rw [named, named, same, digits]

theorem mem_named_cons {digits rest : List Char} (among : digits ∈ named rest) (char : Char) :
    digits ∈ named (char :: rest) := by
  rw [named]
  split
  next => exact List.mem_cons_of_mem _ among
  next => exact among

theorem endReference_congr {groups other : Option Groups} {digits : List Char}
    (agree : digits ≠ [] → groupText groups digits = groupText other digits) :
    endReference groups digits = endReference other digits := by
  unfold endReference
  split
  next => rfl
  next pended => exact agree fun empty => pended (List.isEmpty_iff.mpr empty)

-- While a reference is read, its digits are those read so far and those that follow.
theorem expandFrom_congr {groups other : Option Groups} (reference : Option (List Char))
    (template : List Char)
    (agree : ∀ digits ∈ named template, groupText groups digits = groupText other digits)
    (pending : ∀ read ∈ reference, ∀ digits, digits ≠ [] →
      digits = read.reverse ++ template.takeWhile Char.isDigit →
        groupText groups digits = groupText other digits) :
    expandFrom groups reference template = expandFrom other reference template := by
  induction template generalizing reference with
  | nil =>
      cases reference with
      | none => rfl
      | some read =>
          exact endReference_congr fun pended => pending read rfl _ pended (List.append_nil _).symm
  | cons char rest ih =>
      have behind : ∀ digits ∈ named rest, groupText groups digits = groupText other digits :=
        fun digits among => agree digits (mem_named_cons among char)
      have fresh : expandFrom groups none (char :: rest) =
          expandFrom other none (char :: rest) := by
        simp only [expandFrom]
        split
        next dollar =>
          apply ih (some []) behind
          rintro _ ⟨⟩ digits pended rfl
          apply agree
          rw [named, if_pos ⟨dollar, pended⟩]
          exact List.mem_cons_self
        next => rw [ih none behind (by simp)]
      cases reference with
      | none => exact fresh
      | some read =>
          by_cases digit : char.isDigit = true
          next =>
            simp only [expandFrom, digit, if_true]
            apply ih (some (char :: read)) behind
            rintro _ ⟨⟩ digits pended rfl
            exact pending read rfl _ pended (by simp [digit])
          next =>
            have ended : endReference groups read.reverse = endReference other read.reverse :=
              endReference_congr fun pended => pending read rfl _ pended (by simp [digit])
            simp only [expandFrom, if_neg digit, ended] at fresh ⊢
            rw [fresh]

theorem expand_congr {groups other : Option Groups} {template : List Char}
    (agree : ∀ digits ∈ named template, groupText groups digits = groupText other digits) :
    expand template groups = expand template other :=
  expandFrom_congr none template agree (by simp)

end Workbench.Template
