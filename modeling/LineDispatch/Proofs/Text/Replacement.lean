import LineDispatch.Proofs.Text.Decoding

/-!
# What is replaced

Read from the front, bytes come in two kinds of parts: the bytes of a character,
and the longest stretches that are none, each a beginning of a character that
the byte behind it does not go on with, or a single byte that no character begins
with.  `Utf8.Decoded` says that the first become their characters and the second
one replacement character each, without saying how the parts are found, and
`Utf8.decoded_iff` that the lossy decoder finds them: bytes are decoded in just
one way.

The decoder knows nothing of characters that it has not read to the end.  What
joins the two is that every state it comes to can still be led to a character
(`exists_completes`), and that the bytes which lead it there are the bytes of
that character (`completes_iff`).  So the bytes it has taken since the last
character are a beginning of one, and the byte it refuses is one that no
character goes on with (`step_eq_none_iff`).
-/

namespace LineDispatch.Utf8

variable {s s' : State} {part more bytes rest : List UInt8} {c : Char} {b : UInt8}

/-- Whether bytes are those of a character or a beginning of them. -/
def Begins (part : List UInt8) : Prop := ∃ c, part <+: encodeChar c

/-- Whether bytes with `rest` behind them are as many as there are that are no character: they begin
one, are not all of it, and the next byte does not go on with it, or they are a single byte that no
character begins with. -/
inductive Invalid : List UInt8 → List UInt8 → Prop
  | broken {part rest : List UInt8} (hne : part ≠ []) (h : Begins part)
    (hchar : ∀ c, part ≠ encodeChar c) (hend : ∀ b ∈ rest.head?, ¬ Begins (part ++ [b])) :
    Invalid part rest
  | foreign {b : UInt8} {rest : List UInt8} (h : ¬ Begins [b]) : Invalid [b] rest

/-- The bytes read as the text: those of a character as that character, and each invalid part as one
replacement character. -/
inductive Decoded : List UInt8 → Text → Prop
  | nil : Decoded [] []
  | char {rest : List UInt8} {t : Text} (c : Char) (h : Decoded rest t) :
    Decoded (encodeChar c ++ rest) (c :: t)
  | invalid {part rest : List UInt8} {t : Text} (hpart : Invalid part rest) (h : Decoded rest t) :
    Decoded (part ++ rest) (replacement :: t)

/-! ## Inside a character -/

/-- The decoder comes from one state to another and completes no character on the way. -/
inductive Takes : State → List UInt8 → State → Prop
  | nil (s : State) : Takes s [] s
  | cons {s s' s'' : State} {b : UInt8} {part : List UInt8} (h : step s b.toNat = some ([], s'))
    (hpart : Takes s' part s'') : Takes s (b :: part) s''

theorem Takes.completes_append (h : Takes s part s') (hmore : Completes s' more c) :
    Completes s (part ++ more) c := by
  induction h with
  | nil s => exact hmore
  | cons hstep _ ih => exact .more hstep (ih hmore)

theorem Takes.concat {s'' : State} (h : Takes s part s')
    (hstep : step s' b.toNat = some ([], s'')) : Takes s (part ++ [b]) s'' := by
  induction h with
  | nil s => exact .cons hstep (.nil s'')
  | cons hfirst _ ih => exact .cons hfirst (ih hstep)

theorem Takes.lossyFrom (h : Takes s part s') (rest : List UInt8) :
    lossyFrom s (part ++ rest) = lossyFrom s' rest := by
  induction h with
  | nil s => rfl
  | cons hstep _ ih =>
      rw [List.cons_append, lossyFrom_cons, lossyStep_of_step hstep, ih]
      rfl

/-- The state behind bytes is the only one. -/
theorem Takes.unique {s'' : State} (h : Takes s part s') (h' : Takes s part s'') : s' = s'' := by
  induction h with
  | nil s => cases h'; rfl
  | cons hstep _ ih =>
      cases h' with
      | cons hstep' hpart' =>
          rw [hstep] at hstep'
          cases hstep'
          exact ih hpart'

/-- A part of a character is taken, unless it is all of it. -/
theorem Completes.takes (h : Completes s (part ++ more) c) (hmore : more ≠ []) :
    ∃ s', Takes s part s' ∧ Completes s' more c := by
  induction part generalizing s with
  | nil => exact ⟨s, .nil s, h⟩
  | cons b part ih =>
      rw [List.cons_append] at h
      generalize hbytes : part ++ more = bytes at h
      cases h with
      | last hstep => exact absurd (List.append_eq_nil_iff.1 hbytes).2 hmore
      | more hstep hrest =>
          rw [← hbytes] at hrest
          obtain ⟨s', hpart, hcomplete⟩ := ih hrest
          exact ⟨s', .cons hstep hpart, hcomplete⟩

theorem Completes.not_takes (h : Completes s part c) (h' : Takes s part s') : False := by
  induction h with
  | last hstep =>
      cases h' with
      | cons hstep' =>
          rw [hstep] at hstep'
          cases hstep'
  | more hstep _ ih =>
      cases h' with
      | cons hstep' hpart =>
          rw [hstep] at hstep'
          cases hstep'
          exact ih hpart

/-- Whether there is a byte that a state goes on with. -/
def State.Open : State → Prop
  | .start => True
  | .inside _ low high _ => low ≤ high ∧ high < 256

theorem open_of_step {n : Nat} {t : Text} (h : step s n = some (t, s')) : s'.Open := by
  cases steps_of_step h with
  | ascii | last => trivial
  | two | more => exact ⟨by decide, by decide⟩
  | three _ _ _ hrange hhigh | four _ _ _ hrange hhigh =>
      exact ⟨hrange, Nat.lt_of_le_of_lt hhigh (by decide)⟩

theorem Takes.isOpen (h : Takes s part s') (hs : s.Open) : s'.Open := by
  induction h with
  | nil s => exact hs
  | cons hstep _ ih => exact ih (open_of_step hstep)

/-- A character is completed by the least byte that is waited for, time after time. -/
theorem exists_completes_inside (owed : Nat) {low high : Nat} (code : Nat) (hrange : low ≤ high)
    (hbyte : high < 256) : ∃ more c, Completes (.inside owed low high code) more c := by
  induction owed generalizing low high code with
  | zero =>
      refine ⟨[UInt8.ofNat low], _, .last (if_pos ?_)⟩
      rw [UInt8.toNat_ofNat', Nat.mod_eq_of_lt (by omega)]
      exact ⟨Nat.le_refl low, hrange⟩
  | succ owed ih =>
      have hnext : ∃ more c,
          Completes (.inside owed 0x80 0xBF (64 * code + (low - 0x80))) more c :=
        ih _ (by decide) (by decide)
      obtain ⟨more, c, hmore⟩ := hnext
      have hstep : step (.inside (owed + 1) low high code) (UInt8.ofNat low).toNat =
          some ([], .inside owed 0x80 0xBF (64 * code + (low - 0x80))) := by
        rw [UInt8.toNat_ofNat', Nat.mod_eq_of_lt (by omega)]
        exact if_pos ⟨Nat.le_refl low, hrange⟩
      exact ⟨UInt8.ofNat low :: more, c, .more hstep hmore⟩

/-- Every state that bytes lead to can be led to a character. -/
theorem exists_completes (hs : s.Open) : ∃ more c, Completes s more c := by
  cases s with
  | start => exact ⟨encodeChar 'a', 'a', completes_encodeChar 'a'⟩
  | inside owed low high code => exact exists_completes_inside owed code hs.1 hs.2

/-! ## The bytes that complete a character -/

theorem eq_ofNat_of_toNat {n : Nat} (h : b.toNat = n) : b = UInt8.ofNat n := by
  rw [← h, UInt8.ofNat_toNat]

/-- Inside a character a byte brings the last digit of a code. -/
theorem last_digit {low high v w : Nat} (hlow : 0x80 ≤ low) (hhigh : high ≤ 0xBF)
    (hmin : low ≤ b.toNat) (hmax : b.toNat ≤ high) (hw : 64 * v + (b.toNat - 0x80) = w) :
    w / 64 = v ∧ low ≤ w % 64 + 128 ∧ w % 64 + 128 ≤ high ∧ b = UInt8.ofNat (w % 64 + 128) :=
  ⟨by omega, by omega, by omega, eq_ofNat_of_toNat (by omega)⟩

theorem Completes.of_last {low high v : Nat} (hlow : 0x80 ≤ low) (hhigh : high ≤ 0xBF)
    (h : Completes (.inside 0 low high v) bytes c) :
    ∃ w, w / 64 = v ∧ low ≤ w % 64 + 128 ∧ w % 64 + 128 ≤ high ∧
      bytes = [UInt8.ofNat (w % 64 + 128)] ∧ c = Char.ofNat w := by
  cases h with
  | last hstep =>
      cases steps_of_step hstep with
      | last hmin hmax hw =>
          obtain ⟨hdigits, hleast, hgreatest, hb⟩ := last_digit hlow hhigh hmin hmax hw
          exact ⟨_, hdigits, hleast, hgreatest, by rw [← hb], rfl⟩
  | more hstep _ => cases steps_of_step hstep

theorem Completes.of_inside {owed low high v : Nat} (hlow : 0x80 ≤ low) (hhigh : high ≤ 0xBF)
    (h : Completes (.inside (owed + 1) low high v) bytes c) :
    ∃ w rest, w / 64 = v ∧ low ≤ w % 64 + 128 ∧ w % 64 + 128 ≤ high ∧
      bytes = UInt8.ofNat (w % 64 + 128) :: rest ∧ Completes (.inside owed 0x80 0xBF w) rest c := by
  cases h with
  | last hstep => cases steps_of_step hstep
  | more hstep hmore =>
      cases steps_of_step hstep with
      | more hmin hmax hw =>
          obtain ⟨hdigits, hleast, hgreatest, hb⟩ := last_digit hlow hhigh hmin hmax hw
          exact ⟨_, _, hdigits, hleast, hgreatest, by rw [← hb], hmore⟩

theorem toNat_ofNat {v : Nat} (h : v < 0xD800 ∨ 0xDFFF < v ∧ v < 0x110000) :
    (Char.ofNat v).toNat = v := by
  rw [Char.ofNat, dif_pos h]
  rfl

/-- The bytes of a code point, by the digits at base 64 that it has. -/
theorem encodeChar_ofNat {v : Nat} (h : v < 0xD800 ∨ 0xDFFF < v ∧ v < 0x110000) :
    encodeChar (Char.ofNat v) =
      if v ≤ 127 then [UInt8.ofNat v]
      else if v ≤ 2047 then [UInt8.ofNat (v / 64 % 32 + 192), UInt8.ofNat (v % 64 + 128)]
      else if v ≤ 65535 then
        [UInt8.ofNat (v / 64 / 64 % 16 + 224), UInt8.ofNat (v / 64 % 64 + 128),
          UInt8.ofNat (v % 64 + 128)]
      else
        [UInt8.ofNat (v / 64 / 64 / 64 % 8 + 240), UInt8.ofNat (v / 64 / 64 % 64 + 128),
          UInt8.ofNat (v / 64 % 64 + 128), UInt8.ofNat (v % 64 + 128)] := by
  have hdigits : ∀ n, n / 4096 = n / 64 / 64 ∧ n / 262144 = n / 64 / 64 / 64 := by omega
  have hval : (Char.ofNat v).val.toNat = v := toNat_ofNat h
  simp only [encodeChar, String.utf8EncodeChar, (hdigits _).1, (hdigits _).2, hval]

theorem Completes.two_bytes {v : Nat} (hb : b.toNat = v + 192) (hshort : 2 ≤ v) (hv : v < 32)
    (h : Completes (.inside 0 0x80 0xBF v) bytes c) : b :: bytes = encodeChar c := by
  obtain ⟨w, rfl, -, -, rfl, rfl⟩ := h.of_last (by omega) (by omega)
  have hlead : w / 64 % 32 + 192 = w / 64 + 192 := by omega
  rw [encodeChar_ofNat (by omega), if_neg (by omega), if_pos (by omega), hlead,
    eq_ofNat_of_toNat hb]

theorem Completes.three_bytes {low high v : Nat} (hb : b.toNat = v + 224) (hv : v < 16)
    (hlow : 0x80 ≤ low) (hhigh : high ≤ 0xBF) (hshort : v = 0 → 0xA0 ≤ low)
    (hsurrogate : v = 0xD → high ≤ 0x9F) (h : Completes (.inside 1 low high v) bytes c) :
    b :: bytes = encodeChar c := by
  obtain ⟨u, _, rfl, hmin, hmax, rfl, hlast⟩ := h.of_inside hlow hhigh
  obtain ⟨w, rfl, -, -, rfl, rfl⟩ := hlast.of_last (by omega) (by omega)
  have hlead : w / 64 / 64 % 16 + 224 = w / 64 / 64 + 224 := by omega
  rw [encodeChar_ofNat (by omega), if_neg (by omega), if_neg (by omega), if_pos (by omega), hlead,
    eq_ofNat_of_toNat hb]

theorem Completes.four_bytes {low high v : Nat} (hb : b.toNat = v + 240) (hv : v < 5)
    (hlow : 0x80 ≤ low) (hhigh : high ≤ 0xBF) (hshort : v = 0 → 0x90 ≤ low)
    (hgreatest : v = 4 → high ≤ 0x8F) (h : Completes (.inside 2 low high v) bytes c) :
    b :: bytes = encodeChar c := by
  obtain ⟨t, _, rfl, hmin, hmax, rfl, hthird⟩ := h.of_inside hlow hhigh
  obtain ⟨u, _, rfl, -, -, rfl, hlast⟩ := hthird.of_inside (by omega) (by omega)
  obtain ⟨w, rfl, -, -, rfl, rfl⟩ := hlast.of_last (by omega) (by omega)
  have hlead : w / 64 / 64 / 64 % 8 + 240 = w / 64 / 64 / 64 + 240 := by omega
  rw [encodeChar_ofNat (by omega), if_neg (by omega), if_neg (by omega), if_neg (by omega), hlead,
    eq_ofNat_of_toNat hb]

theorem eq_encodeChar_of_completes (h : Completes .start bytes c) : bytes = encodeChar c := by
  cases h with
  | last hstep =>
      cases steps_of_step hstep with
      | ascii hb => rw [encodeChar_ofNat (by omega), if_pos (by omega), UInt8.ofNat_toNat]
  | more hstep hrest =>
      cases steps_of_step hstep with
      | two hb hshort hv => exact hrest.two_bytes hb hshort hv
      | three hb hv hlow _ hhigh hshort hsurrogate =>
          exact hrest.three_bytes hb hv hlow hhigh hshort hsurrogate
      | four hb hv hlow _ hhigh hshort hgreatest =>
          exact hrest.four_bytes hb hv hlow hhigh hshort hgreatest

/-- The bytes that complete a character are its own. -/
theorem completes_iff : Completes .start bytes c ↔ bytes = encodeChar c := by
  constructor
  · exact eq_encodeChar_of_completes
  · rintro rfl
    exact completes_encodeChar c

/-! ## Beginnings -/

/-- A byte completes a character, or it leaves the decoder inside one. -/
theorem step_cases {n : Nat} {t : Text} (h : step s n = some (t, s')) :
    (∃ c, t = [c] ∧ s' = .start) ∨ t = [] ∧ s' ≠ .start := by
  cases steps_of_step h with
  | ascii | last => exact .inl ⟨_, rfl, rfl⟩
  | two | three | four | more => exact .inr ⟨rfl, State.noConfusion⟩

/-- What the decoder takes is a beginning of the character that it can still come to. -/
theorem begins_of_takes (h : Takes .start part s) : Begins part := by
  obtain ⟨more, c, hmore⟩ := exists_completes (h.isOpen trivial)
  exact ⟨c, more, completes_iff.1 (h.completes_append hmore)⟩

/-- A beginning of a character is taken, unless it is all of one. -/
theorem Begins.exists_takes (h : Begins part) (hchar : ∀ c, part ≠ encodeChar c) :
    ∃ s, Takes .start part s := by
  obtain ⟨c, more, hbytes⟩ := h
  have hmore : more ≠ [] := by
    rintro rfl
    exact hchar c (by rw [← hbytes, List.append_nil])
  obtain ⟨s, htakes, -⟩ := (completes_iff.2 hbytes).takes hmore
  exact ⟨s, htakes⟩

theorem Takes.ne_start (h : Takes s part s') (hne : part ≠ []) : s' ≠ .start := by
  induction h with
  | nil s => exact absurd rfl hne
  | @cons _ s' _ b part hstep hpart ih =>
      by_cases hrest : part = []
      · subst hrest
        cases hpart
        rcases step_cases hstep with ⟨c, hc, -⟩ | ⟨-, hstart⟩
        · cases hc
        · exact hstart
      · exact ih hrest

/-- The decoder refuses the bytes that do not go on with what was begun. -/
theorem step_eq_none_iff (h : Takes .start part s) :
    step s b.toNat = none ↔ ¬ Begins (part ++ [b]) := by
  constructor
  · rintro hrefused ⟨c, more, hbytes⟩
    rw [List.append_assoc] at hbytes
    obtain ⟨s', htakes, hcompletes⟩ := (completes_iff.2 hbytes).takes (by simp)
    obtain rfl := h.unique htakes
    rw [List.singleton_append] at hcompletes
    cases hcompletes with
    | last hstep | more hstep _ =>
        rw [hrefused] at hstep
        cases hstep
  · intro hbegins
    cases hstep : step s b.toNat with
    | none => rfl
    | some next =>
        obtain ⟨t, s'⟩ := next
        exfalso
        rcases step_cases hstep with ⟨c, rfl, rfl⟩ | ⟨rfl, -⟩
        · have hbytes : part ++ [b] = encodeChar c :=
            completes_iff.1 (h.completes_append (.last hstep))
          exact hbegins ⟨c, hbytes ▸ List.prefix_rfl⟩
        · exact hbegins (begins_of_takes (h.concat hstep))

theorem step_start_eq_none_iff : step .start b.toNat = none ↔ ¬ Begins [b] :=
  step_eq_none_iff (.nil .start)

/-! ## Invalid parts -/

/-- A refused byte is replaced along with what it was refused after. -/
theorem lossyFrom_of_refused (hs : s ≠ .start) (hrest : ∀ b ∈ rest.head?, step s b.toNat = none) :
    lossyFrom s rest = replacement :: lossy rest := by
  cases s with
  | start => exact absurd rfl hs
  | inside owed low high code =>
      cases rest with
      | nil => rfl
      | cons b rest =>
          have hstep : step (.inside owed low high code) b.toNat = none := hrest b rfl
          rw [lossy, lossyFrom_cons, lossyFrom_cons, lossyStep, lossyStep, hstep, step]
          cases first b.toNat <;> rfl

theorem Invalid.lossy (h : Invalid part rest) :
    lossy (part ++ rest) = replacement :: Utf8.lossy rest := by
  cases h with
  | broken hne hbegins hchar hend =>
      obtain ⟨s, htakes⟩ := hbegins.exists_takes hchar
      rw [Utf8.lossy, htakes.lossyFrom]
      exact lossyFrom_of_refused (htakes.ne_start hne) fun b hb =>
        (step_eq_none_iff htakes).2 (hend b hb)
  | @foreign b rest hforeign =>
      have hstep : step .start b.toNat = none := step_start_eq_none_iff.2 hforeign
      rw [Utf8.lossy, List.singleton_append, lossyFrom_cons, lossyStep, hstep]
      rfl

/-- Bytes go to the end of a character, or to the end of the bytes or a byte that is refused. -/
theorem exists_front (s : State) (bytes : List UInt8) :
    (∃ front rest c, bytes = front ++ rest ∧ Completes s front c) ∨
      ∃ front rest s', bytes = front ++ rest ∧ Takes s front s' ∧
        ∀ b ∈ rest.head?, step s' b.toNat = none := by
  induction bytes generalizing s with
  | nil => exact .inr ⟨[], [], s, rfl, .nil s, by simp⟩
  | cons b bytes ih =>
      cases hstep : step s b.toNat with
      | none => exact .inr ⟨[], b :: bytes, s, rfl, .nil s, by simpa using hstep⟩
      | some next =>
          obtain ⟨t, s'⟩ := next
          rcases step_cases hstep with ⟨c, rfl, rfl⟩ | ⟨rfl, -⟩
          · exact .inl ⟨[b], bytes, c, rfl, .last hstep⟩
          · rcases ih s' with ⟨front, rest, c, rfl, h⟩ | ⟨front, rest, s'', rfl, h, hrest⟩
            · exact .inl ⟨b :: front, rest, c, rfl, .more hstep h⟩
            · exact .inr ⟨b :: front, rest, s'', rfl, .cons hstep h, hrest⟩

/-- Bytes begin with those of a character or with an invalid part. -/
theorem exists_char_or_invalid (hne : bytes ≠ []) :
    (∃ c rest, bytes = encodeChar c ++ rest) ∨
      ∃ part rest, bytes = part ++ rest ∧ part ≠ [] ∧ Invalid part rest := by
  rcases exists_front .start bytes with ⟨front, rest, c, rfl, h⟩ | ⟨front, rest, s, rfl, h, hrest⟩
  · exact .inl ⟨c, rest, by rw [completes_iff.1 h]⟩
  · right
    by_cases hfront : front = []
    · subst hfront
      obtain ⟨b, rest, rfl⟩ := List.exists_cons_of_ne_nil hne
      cases h
      exact ⟨[b], rest, rfl, List.cons_ne_nil b [],
        .foreign (step_start_eq_none_iff.1 (hrest b rfl))⟩
    · have hchar : ∀ c, front ≠ encodeChar c := fun c hc => (completes_iff.2 hc).not_takes h
      exact ⟨front, rest, rfl, hfront, .broken hfront (begins_of_takes h) hchar fun b hb =>
        (step_eq_none_iff h).1 (hrest b hb)⟩

/-! ## Decoding -/

theorem decoded_lossy (bytes : List UInt8) : Decoded bytes (lossy bytes) := by
  induction hlength : bytes.length using Nat.strongRecOn generalizing bytes with
  | ind n ih =>
      by_cases hne : bytes = []
      · subst hne
        exact .nil
      · rcases exists_char_or_invalid hne with ⟨c, rest, rfl⟩ | ⟨part, rest, rfl, hpart, hinvalid⟩
        · have hbytes : 0 < (encodeChar c).length :=
            List.length_pos_iff.2 String.utf8EncodeChar_ne_nil
          rw [List.length_append] at hlength
          rw [lossy_encodeChar_append]
          exact .char c (ih rest.length (by omega) rest rfl)
        · have hbytes : 0 < part.length := List.length_pos_iff.2 hpart
          rw [List.length_append] at hlength
          rw [hinvalid.lossy]
          exact .invalid hinvalid (ih rest.length (by omega) rest rfl)

/-- Bytes are decoded in one way, and that is the decoder's. -/
theorem decoded_iff {t : Text} : Decoded bytes t ↔ t = lossy bytes := by
  constructor
  · intro h
    induction h with
    | nil => rfl
    | char c _ ih => rw [lossy_encodeChar_append, ih]
    | invalid hpart _ ih => rw [hpart.lossy, ih]
  · rintro rfl
    exact decoded_lossy bytes

/-- A character below 128 in the text that bytes are decoded to stands for its byte there. -/
theorem mem_of_mem_lossy (hb : b.toNat < 0x80) (h : Char.ofNat b.toNat ∈ lossy bytes) :
    b ∈ bytes := by
  have hdecoded := decoded_lossy bytes
  generalize lossy bytes = t at h hdecoded
  induction hdecoded with
  | nil => cases h
  | char c _ ih =>
      rcases List.mem_cons.1 h with rfl | hrest
      · rw [encodeChar_ofNat (by omega), if_pos (by omega), UInt8.ofNat_toNat]
        exact List.mem_append_left _ List.mem_cons_self
      · exact List.mem_append_right _ (ih hrest)
  | invalid _ _ ih =>
      rcases List.mem_cons.1 h with heq | hrest
      · have hcode : b.toNat = 0xFFFD := by
          rw [← toNat_ofNat (v := b.toNat) (by omega), heq]
          rfl
        omega
      · exact List.mem_append_right _ (ih hrest)

end LineDispatch.Utf8
