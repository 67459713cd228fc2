import Throttle.Proofs.Key
import Throttle.Text.Hex
import Throttle.Text.Quoted

/-!
# What a quoted text tells

The printed form of a character is never the beginning of the form of another one.  Main statement:
`quoted_inj`, texts that look the same in quotes are the same.
-/

namespace Throttle.Text

/-- The letters of the short forms, and what they stand for. -/
def quotedForms : List (Char × Char) :=
  [('"', '"'), ('\\', '\\'), ('t', '\t'), ('n', '\n'), ('r', '\r'), ('0', '\x00')]

theorem quoteChar_cases (c : Char) :
    (∃ e, (e, c) ∈ quotedForms ∧ quoteChar c = ['\\', e]) ∨
      quoteChar c = codePoint c ∨ c ≠ '\\' ∧ quoteChar c = [c] := by
  have hshort : ∀ {e d : Char}, c = d → (e, d) ∈ quotedForms →
      ∃ e', (e', c) ∈ quotedForms ∧ ['\\', e] = ['\\', e'] :=
    fun hc he => ⟨_, hc ▸ he, rfl⟩
  unfold quoteChar
  split
  · next h => exact .inl (hshort h (by decide))
  split
  · next h => exact .inl (hshort h (by decide))
  split
  · next h => exact .inl (hshort h (by decide))
  split
  · next h => exact .inl (hshort h (by decide))
  split
  · next h => exact .inl (hshort h (by decide))
  split
  · next h => exact .inl (hshort (d := '\x00') (Char.toNat_inj.1 h) (by decide))
  split
  · exact .inr (.inl rfl)
  · next hback _ _ _ _ _ => exact .inr (.inr ⟨hback, rfl⟩)

theorem of_mem_quotedForms {e c : Char} (h : (e, c) ∈ quotedForms) :
    e ≠ 'u' ∧ quotedForms.lookup e = some c := by
  have hall : ∀ form ∈ quotedForms, form.1 ≠ 'u' ∧ quotedForms.lookup form.1 = some form.2 := by
    simp only [quotedForms, List.forall_mem_cons]
    decide
  exact hall (e, c) h

theorem codePoint_append_inj {c d : Char} {cs ds : List Char}
    (h : codePoint c ++ cs = codePoint d ++ ds) : c = d ∧ cs = ds := by
  have hbrace : ∀ e : Char, '}' ∉ Nat.toDigits 16 e.toNat := fun e hmem =>
    of_mem_toDigits (p := (· ≠ '}')) (by decide) e.toNat '}' hmem rfl
  simp only [codePoint, List.cons_append, List.append_assoc, List.nil_append, List.cons.injEq,
    true_and] at h
  obtain ⟨hdigits, hrest⟩ := append_cons_inj_of_first (hbrace c) (hbrace d) h
  exact ⟨Char.toNat_inj.1 (toDigits_inj hdigits), hrest⟩

/-- A form is told from what follows it. -/
theorem quoteChar_append_inj {c d : Char} {cs ds : List Char}
    (h : quoteChar c ++ cs = quoteChar d ++ ds) : c = d ∧ cs = ds := by
  rcases quoteChar_cases c with ⟨e, he, hc⟩ | hc | ⟨hback, hc⟩ <;>
    rcases quoteChar_cases d with ⟨e', he', hd⟩ | hd | ⟨hback', hd⟩ <;> rw [hc, hd] at h
  · simp only [List.cons_append, List.nil_append, List.cons.injEq, true_and] at h
    have hsame : some c = some d := by
      rw [← (of_mem_quotedForms he).2, ← (of_mem_quotedForms he').2, h.1]
    exact ⟨Option.some.inj hsame, h.2⟩
  · simp only [codePoint, List.cons_append, List.cons.injEq, true_and] at h
    exact absurd h.1 (of_mem_quotedForms he).1
  · simp only [List.cons_append, List.cons.injEq] at h
    exact absurd h.1.symm hback'
  · simp only [codePoint, List.cons_append, List.cons.injEq, true_and] at h
    exact absurd h.1.symm (of_mem_quotedForms he').1
  · exact codePoint_append_inj h
  · simp only [codePoint, List.cons_append, List.cons.injEq] at h
    exact absurd h.1.symm hback'
  · simp only [List.cons_append, List.cons.injEq] at h
    exact absurd h.1 hback
  · simp only [codePoint, List.cons_append, List.cons.injEq] at h
    exact absurd h.1 hback
  · simpa only [List.cons_append, List.nil_append, List.cons.injEq] using h

theorem quoteChar_ne_nil (c : Char) : quoteChar c ≠ [] := by
  rcases quoteChar_cases c with ⟨e, -, hc⟩ | hc | ⟨-, hc⟩ <;>
    rw [hc] <;> exact List.cons_ne_nil _ _

theorem flatMap_quoteChar_inj {cs ds : List Char}
    (h : cs.flatMap quoteChar = ds.flatMap quoteChar) : cs = ds := by
  induction cs generalizing ds with
  | nil =>
      cases ds with
      | nil => rfl
      | cons d ds =>
          rw [List.flatMap_nil, List.flatMap_cons] at h
          exact absurd (List.append_eq_nil_iff.1 h.symm).1 (quoteChar_ne_nil d)
  | cons c cs ih =>
      cases ds with
      | nil =>
          rw [List.flatMap_nil, List.flatMap_cons] at h
          exact absurd (List.append_eq_nil_iff.1 h).1 (quoteChar_ne_nil c)
      | cons d ds =>
          rw [List.flatMap_cons, List.flatMap_cons] at h
          obtain ⟨rfl, hrest⟩ := quoteChar_append_inj h
          rw [ih hrest]

theorem quoted_inj {s t : String} (h : quoted s = quoted t) : s = t := by
  have hchars := congrArg String.toList h
  simp only [quoted, String.toList_ofList, List.cons_append, List.cons.injEq, true_and] at hchars
  exact String.toList_inj.1 (flatMap_quoteChar_inj (List.append_cancel_right hchars))

end Throttle.Text
