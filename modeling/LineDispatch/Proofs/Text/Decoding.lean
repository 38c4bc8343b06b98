import Mathlib.Tactic.SplitIfs
import LineDispatch.Text.Utf8

/-!
# Decoding bytes

What the lossy decoder makes of bytes, told by the parts that they come in.

* A byte below 128 is a character wherever it stands, and the decoder starts
  afresh behind it, whatever came before: a character that was begun and not
  ended is replaced there as it would be at the end
  (`Utf8.lossy_append_ascii`).  For inside a character the decoder waits for
  nothing but bytes from 128 on (`State.Inner`), and every step keeps that.
* The bytes of a text are decoded to the text (`Utf8.lossy_encode`).  The first
  byte of a character tells how many are owed and leaves the digits of its code
  point at base 64 that it holds; each of the others brings one more digit, and
  the last completes the character (`Utf8.completes_encodeChar`).

All that a byte can do is said once (`Utf8.Steps`), and what holds of every step
is read off there.
-/

namespace LineDispatch.Utf8

variable {s : State}

theorem lossyFrom_cons (s : State) (b : UInt8) (rest : List UInt8) :
    lossyFrom s (b :: rest) =
      (lossyStep s b.toNat).1 ++ lossyFrom (lossyStep s b.toNat).2 rest := by
  cases s <;> rfl

theorem lossyStep_of_step {b : Nat} {next : Text × State} (h : step s b = some next) :
    lossyStep s b = next := by
  unfold lossyStep
  rw [h]

/-! ## What a byte does -/

/-- A byte leads from one state to another and completes a text on the way.  A first byte that owes
others leaves the first digit of the code point, and what may come next keeps out the codes that
fewer bytes can say, the surrogates and what no code point reaches. -/
inductive Steps : State → Nat → Text → State → Prop
  | ascii {b : Nat} (hb : b < 0x80) : Steps .start b [Char.ofNat b] .start
  | two {b v : Nat} (hb : b = v + 0xC0) (hshort : 2 ≤ v) (hv : v < 32) :
    Steps .start b [] (.inside 0 0x80 0xBF v)
  | three {b low high v : Nat} (hb : b = v + 0xE0) (hv : v < 16) (hlow : 0x80 ≤ low)
    (hrange : low ≤ high) (hhigh : high ≤ 0xBF) (hshort : v = 0 → 0xA0 ≤ low)
    (hsurrogate : v = 0xD → high ≤ 0x9F) : Steps .start b [] (.inside 1 low high v)
  | four {b low high v : Nat} (hb : b = v + 0xF0) (hv : v < 5) (hlow : 0x80 ≤ low)
    (hrange : low ≤ high) (hhigh : high ≤ 0xBF) (hshort : v = 0 → 0x90 ≤ low)
    (hgreatest : v = 4 → high ≤ 0x8F) : Steps .start b [] (.inside 2 low high v)
  | last {b low high v w : Nat} (hlow : low ≤ b) (hhigh : b ≤ high) (hw : 64 * v + (b - 0x80) = w) :
    Steps (.inside 0 low high v) b [Char.ofNat w] .start
  | more {b owed low high v w : Nat} (hlow : low ≤ b) (hhigh : b ≤ high)
    (hw : 64 * v + (b - 0x80) = w) :
    Steps (.inside (owed + 1) low high v) b [] (.inside owed 0x80 0xBF w)

theorem steps_of_step {s' : State} {b : Nat} {t : Text} (h : step s b = some (t, s')) :
    Steps s b t s' := by
  cases s with
  | start =>
      have hfirst : first b = some (t, s') := h
      unfold first at hfirst
      -- The first bytes in the order of the decoder, three of three bytes and three of four.
      split_ifs at hfirst <;> cases hfirst
      · exact .ascii (by omega)
      · exact .two (by omega) (by omega) (by omega)
      · exact .three (by omega) (by omega) (by omega) (by omega) (by omega) (by omega) (by omega)
      · exact .three (by omega) (by omega) (by omega) (by omega) (by omega) (by omega) (by omega)
      · exact .three (by omega) (by omega) (by omega) (by omega) (by omega) (by omega) (by omega)
      · exact .four (by omega) (by omega) (by omega) (by omega) (by omega) (by omega) (by omega)
      · exact .four (by omega) (by omega) (by omega) (by omega) (by omega) (by omega) (by omega)
      · exact .four (by omega) (by omega) (by omega) (by omega) (by omega) (by omega) (by omega)
  | inside owed low high code =>
      cases owed <;> simp only [step] at h <;> split at h <;> rename_i hrange <;> cases h
      · exact .last hrange.1 hrange.2 rfl
      · exact .more hrange.1 hrange.2 rfl

/-! ## Bytes that are a character each -/

/-- Whether a state goes on only with bytes that no character begins with. -/
def State.Inner : State → Prop
  | .start => True
  | .inside _ low _ _ => 0x80 ≤ low

theorem inner_start : State.start.Inner := trivial

theorem inner_of_step {s' : State} {b : Nat} {t : Text} (h : step s b = some (t, s')) :
    s'.Inner := by
  cases steps_of_step h with
  | ascii | last => trivial
  | two | more => exact Nat.le_refl _
  | three _ _ hlow | four _ _ hlow => exact hlow

theorem inner_lossyStep (s : State) (b : Nat) : (lossyStep s b).2.Inner := by
  unfold lossyStep
  split
  · rename_i next hnext
    exact inner_of_step hnext
  · split
    · trivial
    · split
      · rename_i t s' hfirst
        exact inner_of_step (s := .start) hfirst
      · trivial

/-- A byte below 128 ends what came before it and is a character itself. -/
theorem lossyStep_of_lt (hs : s.Inner) {b : Nat} (hb : b < 0x80) :
    lossyStep s b = (lossyFrom s [] ++ [Char.ofNat b], .start) := by
  have hfirst : first b = some ([Char.ofNat b], .start) := by rw [first, if_pos hb]
  cases s with
  | start =>
      have hstep : step .start b = some ([Char.ofNat b], .start) := hfirst
      rw [lossyStep_of_step hstep]
      rfl
  | inside owed low high code =>
      have hlow : 0x80 ≤ low := hs
      have hstep : step (.inside owed low high code) b = none := by
        rw [step, if_neg (by omega)]
      rw [lossyStep, hstep]
      simp only [hfirst]
      rfl

theorem lossyFrom_append_ascii (hs : s.Inner) {b : UInt8} (hb : b.toNat < 0x80)
    (x y : List UInt8) :
    lossyFrom s (x ++ b :: y) = lossyFrom s x ++ Char.ofNat b.toNat :: lossy y := by
  induction x generalizing s with
  | nil =>
      rw [List.nil_append, lossyFrom_cons, lossyStep_of_lt hs hb, List.append_assoc]
      rfl
  | cons c x ih =>
      -- The state behind a byte is fit to be left by one below 128 whatever it was before.
      rw [List.cons_append, lossyFrom_cons, lossyFrom_cons, ih (inner_lossyStep s c.toNat),
        List.append_assoc]

/-- What stands before a byte below 128 and what stands behind it are decoded apart. -/
theorem lossy_append_ascii {b : UInt8} (hb : b.toNat < 0x80) (x y : List UInt8) :
    lossy (x ++ b :: y) = lossy x ++ Char.ofNat b.toNat :: lossy y :=
  lossyFrom_append_ascii inner_start hb x y

/-! ## The bytes of a character -/

/-- The decoder completes a character with the last of the bytes, and nothing before. -/
inductive Completes : State → List UInt8 → Char → Prop
  | last {s : State} {b : UInt8} {c : Char} (h : step s b.toNat = some ([c], .start)) :
    Completes s [b] c
  | more {s s' : State} {b : UInt8} {bytes : List UInt8} {c : Char}
    (h : step s b.toNat = some ([], s')) (hmore : Completes s' bytes c) : Completes s (b :: bytes) c

theorem Completes.lossyFrom {bytes : List UInt8} {c : Char} (h : Completes s bytes c)
    (rest : List UInt8) : lossyFrom s (bytes ++ rest) = c :: lossy rest := by
  induction h with
  | last hstep =>
      rw [List.singleton_append, lossyFrom_cons, lossyStep_of_step hstep]
      rfl
  | more hstep _ ih =>
      rw [List.cons_append, lossyFrom_cons, lossyStep_of_step hstep, ih]
      rfl

/-- The last byte of a character brings the last digit of its code point. -/
theorem completes_last {low high v : Nat} (hlow : low ≤ v % 64 + 128)
    (hhigh : v % 64 + 128 ≤ high) :
    Completes (.inside 0 low high (v / 64)) [UInt8.ofNat (v % 64 + 128)] (Char.ofNat v) := by
  have hbyte : (UInt8.ofNat (v % 64 + 128)).toNat = v % 64 + 128 := by
    rw [UInt8.toNat_ofNat', Nat.mod_eq_of_lt (by omega)]
  have hv : 64 * (v / 64) + (v % 64 + 128 - 0x80) = v := by omega
  refine .last ?_
  rw [hbyte, step, if_pos ⟨hlow, hhigh⟩]
  dsimp only
  rw [hv]

/-- Every other byte behind the first brings a digit and leaves one byte less to come. -/
theorem Completes.inside {owed low high v : Nat} {bytes : List UInt8} {c : Char}
    (hlow : low ≤ v % 64 + 128) (hhigh : v % 64 + 128 ≤ high)
    (h : Completes (.inside owed 0x80 0xBF v) bytes c) :
    Completes (.inside (owed + 1) low high (v / 64)) (UInt8.ofNat (v % 64 + 128) :: bytes) c := by
  have hbyte : (UInt8.ofNat (v % 64 + 128)).toNat = v % 64 + 128 := by
    rw [UInt8.toNat_ofNat', Nat.mod_eq_of_lt (by omega)]
  have hv : 64 * (v / 64) + (v % 64 + 128 - 0x80) = v := by omega
  refine .more ?_ h
  rw [hbyte, step, if_pos ⟨hlow, hhigh⟩]
  dsimp only
  rw [hv]

/-- The first of several bytes. -/
theorem Completes.first {n : Nat} (hn : n < 256) {bytes : List UInt8} {c : Char}
    (hfirst : first n = some ([], s)) (h : Completes s bytes c) :
    Completes .start (UInt8.ofNat n :: bytes) c := by
  refine .more ?_ h
  rw [UInt8.toNat_ofNat', Nat.mod_eq_of_lt hn]
  exact hfirst

/-- The first of three bytes keeps out what fewer bytes can say, and the surrogates. -/
theorem first_of_three {v : Nat} (hlow : 0x7FF < v) (hhigh : v ≤ 0xFFFF)
    (hvalid : v < 0xD800 ∨ 0xDFFF < v) :
    ∃ low high, first (v / 64 / 64 % 16 + 224) = some ([], .inside 1 low high (v / 64 / 64)) ∧
      low ≤ v / 64 % 64 + 128 ∧ v / 64 % 64 + 128 ≤ high := by
  have hlead : v / 64 / 64 % 16 + 224 = v / 64 / 64 + 224 := by omega
  rw [hlead]
  by_cases hzero : v / 64 / 64 = 0
  · refine ⟨0xA0, 0xBF, ?_, by omega, by omega⟩
    rw [hzero]
    rfl
  · by_cases hsurrogate : v / 64 / 64 = 0xD
    · refine ⟨0x80, 0x9F, ?_, by omega, by omega⟩
      rw [hsurrogate]
      rfl
    · refine ⟨0x80, 0xBF, ?_, by omega, by omega⟩
      rw [first, if_neg (by omega), if_neg (by omega), if_neg (by omega), if_neg (by omega),
        if_pos (by omega), Nat.add_sub_cancel]

/-- The first of four bytes keeps out what three bytes can say, and what no code point reaches. -/
theorem first_of_four {v : Nat} (hlow : 0xFFFF < v) (hhigh : v < 0x110000) :
    ∃ low high, first (v / 64 / 64 / 64 % 8 + 240) =
        some ([], .inside 2 low high (v / 64 / 64 / 64)) ∧
      low ≤ v / 64 / 64 % 64 + 128 ∧ v / 64 / 64 % 64 + 128 ≤ high := by
  have hlead : v / 64 / 64 / 64 % 8 + 240 = v / 64 / 64 / 64 + 240 := by omega
  rw [hlead]
  by_cases hzero : v / 64 / 64 / 64 = 0
  · refine ⟨0x90, 0xBF, ?_, by omega, by omega⟩
    rw [hzero]
    rfl
  · by_cases hlast : v / 64 / 64 / 64 = 4
    · refine ⟨0x80, 0x8F, ?_, by omega, by omega⟩
      rw [hlast]
      rfl
    · refine ⟨0x80, 0xBF, ?_, by omega, by omega⟩
      rw [first, if_neg (by omega), if_neg (by omega), if_neg (by omega), if_neg (by omega),
        if_neg (by omega), if_neg (by omega), if_pos (by omega), Nat.add_sub_cancel]

/-- The bytes of a character complete it, and no bytes before the last do. -/
theorem completes_encodeChar (c : Char) : Completes .start (encodeChar c) c := by
  have hdigits : ∀ n, n / 4096 = n / 64 / 64 ∧ n / 262144 = n / 64 / 64 / 64 := by omega
  have hvalid : c.val.toNat < 0xD800 ∨ 0xDFFF < c.val.toNat ∧ c.val.toNat < 0x110000 := c.valid
  have hchar : Char.ofNat c.val.toNat = c := Char.ofNat_toNat c
  simp only [encodeChar, String.utf8EncodeChar, (hdigits _).1, (hdigits _).2]
  generalize c.val.toNat = v at hvalid hchar
  rw [← hchar]
  -- One case for each number of bytes, in the order in which the encoder tests the code point.
  split_ifs with hone htwo hthree
  · refine .last ?_
    rw [UInt8.toNat_ofNat', Nat.mod_eq_of_lt (by omega)]
    exact if_pos (by omega)
  · have hfirst : first (v / 64 % 32 + 192) = some ([], .inside 0 0x80 0xBF (v / 64)) := by
      have hlead : v / 64 % 32 + 192 = v / 64 + 192 := by omega
      rw [hlead, first, if_neg (by omega), if_pos (by omega), Nat.add_sub_cancel]
    exact .first (by omega) hfirst (completes_last (by omega) (by omega))
  · obtain ⟨low, high, hfirst, hlow, hhigh⟩ := first_of_three (v := v) (by omega) hthree (by omega)
    exact .first (by omega) hfirst (.inside hlow hhigh (completes_last (by omega) (by omega)))
  · obtain ⟨low, high, hfirst, hlow, hhigh⟩ := first_of_four (v := v) (by omega) (by omega)
    exact .first (by omega) hfirst (.inside hlow hhigh
      (.inside (by omega) (by omega) (completes_last (by omega) (by omega))))

/-! ## The bytes of a text -/

/-- The bytes of a character are decoded to it, whatever follows. -/
theorem lossy_encodeChar_append (c : Char) (rest : List UInt8) :
    lossy (encodeChar c ++ rest) = c :: lossy rest :=
  (completes_encodeChar c).lossyFrom rest

theorem lossy_encode_append (t : Text) (rest : List UInt8) :
    lossy (encode t ++ rest) = t ++ lossy rest := by
  induction t with
  | nil => rfl
  | cons c t ih =>
      have hbytes : encode (c :: t) ++ rest = encodeChar c ++ (encode t ++ rest) :=
        List.append_assoc (encodeChar c) (encode t) rest
      rw [hbytes, lossy_encodeChar_append, ih]
      rfl

theorem lossy_encode (t : Text) : lossy (encode t) = t := by
  have h : lossy (encode t ++ []) = t ++ [] := lossy_encode_append t []
  rwa [List.append_nil, List.append_nil] at h

theorem encode_append (s t : Text) : encode (s ++ t) = encode s ++ encode t :=
  List.flatMap_append

/-- A byte below 128 in the bytes of a text stands for its character there. -/
theorem mem_of_mem_encode {b : UInt8} (hb : b.toNat < 0x80) {t : Text} (h : b ∈ encode t) :
    Char.ofNat b.toNat ∈ t := by
  obtain ⟨x, y, hbytes⟩ := List.append_of_mem h
  have htext : t = lossy x ++ Char.ofNat b.toNat :: lossy y := by
    rw [← lossy_encode t, hbytes, lossy_append_ascii hb]
  rw [htext]
  exact List.mem_append_right _ List.mem_cons_self

end LineDispatch.Utf8
