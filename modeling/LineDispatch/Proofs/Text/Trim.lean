import Mathlib.Data.List.DropRight
import LineDispatch.Text.Blank

/-!
# What trimming leaves

A trimmed text neither begins nor ends with a blank, and it is empty exactly if
there was nothing but blanks (`Text.trim_eq_nil_iff`).  `dropTrailing` is the
library's `List.rdropWhile`, and what it takes off are characters of the class
alone (`Text.exists_trailing`).
-/

namespace LineDispatch.Text

variable {p : Char → Bool} {t : Text}

theorem dropTrailing_eq_rdropWhile (p : Char → Bool) (t : Text) :
    dropTrailing p t = t.rdropWhile p := rfl

theorem dropTrailing_concat {c : Char} (hc : p c = true) (t : Text) :
    dropTrailing p (t ++ [c]) = dropTrailing p t :=
  List.rdropWhile_concat_pos p t c hc

theorem dropTrailing_eq_self (h : ∀ c ∈ t.getLast?, p c = false) : dropTrailing p t = t := by
  rw [dropTrailing_eq_rdropWhile, List.rdropWhile_eq_self_iff]
  intro hne hlast
  have hfalse : p (t.getLast hne) = false := h _ (List.getLast?_eq_some_getLast hne)
  rw [hfalse] at hlast
  cases hlast

/-- Only characters of the class are dropped. -/
theorem exists_trailing (p : Char → Bool) (t : Text) :
    ∃ tail, t = dropTrailing p t ++ tail ∧ ∀ c ∈ tail, p c = true :=
  ⟨t.rtakeWhile p, List.rdropWhile_append_rtakeWhile.symm, fun _ => List.mem_rtakeWhile_imp⟩

theorem getLast?_dropTrailing (p : Char → Bool) (t : Text) :
    ∀ c ∈ (dropTrailing p t).getLast?, p c = false := by
  intro c hc
  obtain ⟨hne, rfl⟩ := List.mem_getLast?_eq_getLast hc
  have hlast : ¬ p ((dropTrailing p t).getLast hne) = true := List.rdropWhile_last_not p t hne
  rwa [Bool.not_eq_true] at hlast

theorem head?_dropTrailing {c : Char} (hc : c ∈ (dropTrailing p t).head?) : c ∈ t.head? := by
  obtain ⟨tail, ht, -⟩ := exists_trailing p t
  rw [ht, List.head?_append, Option.mem_def.1 hc]
  rfl

/-! ## Trimming -/

theorem trim_eq_self (hfirst : ∀ c ∈ t.head?, blank c = false)
    (hlast : ∀ c ∈ t.getLast?, blank c = false) : t.trim = t := by
  have hblank : isBlank [] = true := rfl
  have hsurrounded := trim_surrounded hblank hblank hfirst hlast
  rwa [List.nil_append, List.append_nil] at hsurrounded

theorem trim_eq_nil_iff : t.trim = [] ↔ t.isBlank = true := by
  rw [trim, dropTrailing_eq_rdropWhile, List.rdropWhile_eq_nil_iff, isBlank, List.all_eq_true]
  constructor
  · intro h c hc
    rw [← List.takeWhile_append_dropWhile (p := blank) (l := t)] at hc
    rcases List.mem_append.1 hc with hfront | hback
    · exact List.mem_takeWhile_imp hfront
    · exact h c hback
  · intro h c hc
    exact h c (List.dropWhile_sublist blank |>.subset hc)

theorem head?_trim (t : Text) : ∀ c ∈ t.trim.head?, blank c = false := by
  intro c hc
  have hfirst : c ∈ (t.dropWhile blank).head? := head?_dropTrailing hc
  have hnot := List.head?_dropWhile_not blank t
  rw [Option.mem_def.1 hfirst] at hnot
  simpa using hnot

end LineDispatch.Text
