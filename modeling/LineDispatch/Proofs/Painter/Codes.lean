import LineDispatch.Painter

/-!
# Taking the codes out of a text

All codes begin with the escape character, and none is the beginning of another,
so that they can be taken out of a text from the left, one after the other.  A
text that is made of whole codes and of characters that are no escape character
shows these characters, whatever stands behind it (`Text.Shows`).  So what two
such texts show one behind the other is what each of them shows
(`Text.Shows.append`), and every painter paints a text to one that shows it
(`Painter.shows_wrap`).
-/

namespace LineDispatch

/-- The character that every code begins with. -/
def ColorCode.escape : Char := '\x1b'

/-- All codes. -/
def ColorCode.all : List ColorCode := [.red, .yellow, .cyan, .bold, .dim, .reset]

/-- A text with every code in it left out. -/
def Text.uncolored : Text → Text
  | [] => []
  | c :: rest =>
    match ColorCode.all.find? (·.isPrefixOf (c :: rest)) with
    | some code => uncolored (rest.drop (code.length - 1))
    | none => c :: uncolored rest
termination_by t => t.length
decreasing_by
  · simp only [List.length_drop, List.length_cons]
    omega
  · exact Nat.lt_succ_self _

namespace ColorCode

theorem exists_cons {code : ColorCode} (h : code ∈ all) : ∃ rest, code = escape :: rest := by
  have hhead : ∀ code ∈ all, code.head? = some escape := by decide
  exact List.head?_eq_some_iff.1 (hhead code h)

theorem eq_of_prefix_code {code other : ColorCode} (h : code ∈ all) (hother : other ∈ all)
    (hbegins : code <+: other) : code = other := by
  have hfree : ∀ code ∈ all, ∀ other ∈ all, code <+: other → code = other := by decide
  exact hfree code h other hother hbegins

/-- The code that a text begins with is found. -/
theorem find?_append {code : ColorCode} (h : code ∈ all) (rest : Text) :
    all.find? (·.isPrefixOf (code ++ rest)) = some code := by
  cases hfind : all.find? (·.isPrefixOf (code ++ rest)) with
  | none =>
      have hnot := List.find?_eq_none.1 hfind code h
      exact absurd (List.isPrefixOf_iff_prefix.2 (List.prefix_append code rest)) hnot
  | some other =>
      have hother : other ∈ all := List.mem_of_find?_eq_some hfind
      have hfound := List.find?_some hfind
      have hbegins : other <+: code ++ rest := List.isPrefixOf_iff_prefix.1 hfound
      rcases List.prefix_or_prefix_of_prefix hbegins (List.prefix_append code rest) with hle | hle
      · rw [eq_of_prefix_code hother h hle]
      · rw [eq_of_prefix_code h hother hle]

/-- No code begins elsewhere than at an escape character. -/
theorem find?_cons_of_ne {c : Char} (hc : c ≠ escape) (rest : Text) :
    all.find? (·.isPrefixOf (c :: rest)) = none := by
  refine List.find?_eq_none.2 fun code h hbegins => hc ?_
  obtain ⟨tail, rfl⟩ := exists_cons h
  exact (List.cons_prefix_cons.1 (List.isPrefixOf_iff_prefix.1 hbegins)).1.symm

end ColorCode

namespace Text

variable {t painted plain : Text} {code : ColorCode}

@[simp] theorem uncolored_nil : uncolored [] = [] := by
  rw [uncolored]

theorem uncolored_code_append (h : code ∈ ColorCode.all) (rest : Text) :
    uncolored (code ++ rest) = uncolored rest := by
  have hfind := ColorCode.find?_append h rest
  obtain ⟨tail, rfl⟩ := ColorCode.exists_cons h
  rw [List.cons_append] at hfind ⊢
  rw [uncolored, hfind]
  simp

theorem uncolored_cons_of_ne {c : Char} (hc : c ≠ ColorCode.escape) (rest : Text) :
    uncolored (c :: rest) = c :: uncolored rest := by
  rw [uncolored, ColorCode.find?_cons_of_ne hc]

/-! ## What a text shows -/

/-- Whether a text is another one, free of escape characters, with whole codes in it. -/
structure Shows (painted plain : Text) : Prop where
  /-- What stands behind the text completes no code in it. -/
  uncolored_append : ∀ rest, uncolored (painted ++ rest) = plain ++ uncolored rest
  escape_notMem : ColorCode.escape ∉ plain

theorem Shows.uncolored (h : Shows painted plain) : painted.uncolored = plain := by
  have hnil := h.uncolored_append []
  rwa [List.append_nil, uncolored_nil, List.append_nil] at hnil

theorem Shows.of_escape_notMem (h : ColorCode.escape ∉ t) : Shows t t where
  uncolored_append rest := by
    induction t with
    | nil => rfl
    | cons c t ih =>
        rw [List.mem_cons, not_or] at h
        rw [List.cons_append, uncolored_cons_of_ne (Ne.symm h.1), ih h.2, List.cons_append]
  escape_notMem := h

theorem shows_code (h : code ∈ ColorCode.all) : Shows code [] where
  uncolored_append rest := uncolored_code_append h rest
  escape_notMem := List.not_mem_nil

theorem Shows.append {painted' plain' : Text} (h : Shows painted plain)
    (h' : Shows painted' plain') : Shows (painted ++ painted') (plain ++ plain') where
  uncolored_append rest := by
    rw [List.append_assoc, h.uncolored_append, h'.uncolored_append, List.append_assoc]
  escape_notMem := by
    rw [List.mem_append, not_or]
    exact ⟨h.escape_notMem, h'.escape_notMem⟩

theorem Shows.code_append (h : Shows painted plain) (hcode : code ∈ ColorCode.all) :
    Shows (code ++ painted) plain := (shows_code hcode).append h

theorem Shows.append_code (h : Shows painted plain) (hcode : code ∈ ColorCode.all) :
    Shows (painted ++ code) plain := by
  rw [← List.append_nil plain]
  exact h.append (shows_code hcode)

theorem shows_flatMap {α : Type} {f g : α → Text} {xs : List α} (h : ∀ x ∈ xs, Shows (f x) (g x)) :
    Shows (xs.flatMap f) (xs.flatMap g) := by
  induction xs with
  | nil => exact .of_escape_notMem List.not_mem_nil
  | cons x xs ih =>
      rw [List.forall_mem_cons] at h
      rw [List.flatMap_cons, List.flatMap_cons]
      exact h.1.append (ih h.2)

end Text

namespace Painter

variable {t : Text} {code second : ColorCode}

theorem shows_wrap (p : Painter) (ht : ColorCode.escape ∉ t) (hcode : code ∈ ColorCode.all) :
    Text.Shows (p.wrap t code) t := by
  have hplain := Text.Shows.of_escape_notMem ht
  unfold wrap
  split
  · exact (hplain.code_append hcode).append_code (by decide)
  · exact hplain

theorem shows_wrapBoth (p : Painter) (ht : ColorCode.escape ∉ t) (hcode : code ∈ ColorCode.all)
    (hsecond : second ∈ ColorCode.all) : Text.Shows (p.wrapBoth t code second) t := by
  have hplain := Text.Shows.of_escape_notMem ht
  unfold wrapBoth
  split
  · rw [List.append_assoc code second t]
    exact ((hplain.code_append hsecond).code_append hcode).append_code (by decide)
  · exact hplain

end Painter

end LineDispatch
