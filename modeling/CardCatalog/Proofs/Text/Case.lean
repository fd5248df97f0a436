import CardCatalog.Text.Blank
import CardCatalog.Text.Case

/-!
# What the small form of a text keeps

The marks of a text are its blanks and its ASCII characters other than letters: all that tokens,
terms and keyword lists are cut at. The case tables neither move a mark nor lead to one, which is
checked here run by run; no other module looks into the tables.

* `mem_lowerChar_of_isMark`: a mark is the small form of itself alone.
* `Lowered` is the shape of a text beside its small form, by which later proofs go by induction
  (`lowered_lower`).
* `lower_lower`: the small form is its own small form.
* `lower_eq_nil_iff`, `upper_eq_nil_iff`: neither form of a text is empty unless the text is.
* `lower_eq_iff_sameWord`: for a word in small ASCII letters without a k, full case mapping and
  comparison without regard to ASCII case agree.
-/

namespace CardCatalog.Text

/-! ## The tables -/

/-- The code point to which a run maps. -/
def CaseRun.image (run : CaseRun) (code : Nat) : Nat := run.target + (code - run.first)

/-- The last code point that is an image. -/
def CaseRun.lastImage (run : CaseRun) : Nat := run.image run.last

/-- An image of the run may lie on a source of the next one, as their ends and parities go. -/
def CaseRun.leadsInto (run next : CaseRun) : Bool :=
  next.first.ble run.lastImage && run.target.ble next.last &&
    !(next.step.beq 2 && (run.step.beq 2 || run.first.beq run.last) &&
      ((run.target + next.first) % 2).beq 1)

/-- Blanks, and ASCII without its letters. -/
def markRanges : CodeRanges := blankRanges ++ [(0x00, 0x40), (0x5B, 0x60), (0x7B, 0x7F)]

/-- The character is a blank, or in ASCII and no letter. -/
def isMark (c : Char) : Bool := markRanges.contains c

theorem isMark_of_isBlank {c : Char} (h : isBlank c = true) : isMark c = true := by
  simp only [isMark, markRanges, CodeRanges.contains, List.any_append, Bool.or_eq_true]
  exact Or.inl h

/-- No run starts from a mark or leads to one. -/
theorem runs_avoid_marks : ∀ run ∈ lowerRuns, ∀ range ∈ markRanges,
    (run.last < range.1 ∨ range.2 < run.first) ∧
      (run.lastImage < range.1 ∨ range.2 < run.target) := by
  decide +kernel

theorem runs_do_not_chain :
    lowerRuns.all (fun run => lowerRuns.all fun next => !run.leadsInto next) = true := by
  decide +kernel

/-- Images are characters, and neither a capital sigma nor the dotted capital I. -/
theorem runs_image_valid : ∀ run ∈ lowerRuns,
    (run.lastImage < 0xD800 ∨ 0xDFFF < run.target ∧ run.lastImage < 0x110000) ∧
      (run.lastImage < 0x3A3 ∨ 0x3A3 < run.target) ∧
        (run.lastImage < 0x130 ∨ 0x130 < run.target) := by
  decide +kernel

/-- Only the Kelvin sign is led into ASCII from outside. -/
theorem runs_into_ascii : ∀ run ∈ lowerRuns,
    run.last < 128 ∨ 128 ≤ run.target ∨
      (run.first = 0x212A ∧ run.last = 0x212A ∧ run.target = 0x6B) := by
  decide +kernel

variable {run : CaseRun} {code : Nat}

theorem CaseRun.covers_iff : run.covers code = true ↔
    run.first ≤ code ∧ code ≤ run.last ∧ (code - run.first) % run.step = 0 := by
  simp only [CaseRun.covers, Bool.and_eq_true, decide_eq_true_eq, beq_iff_eq, and_assoc]

theorem CaseRun.image_le (h : run.covers code = true) :
    run.target ≤ run.image code ∧ run.image code ≤ run.lastImage := by
  obtain ⟨h₁, h₂, -⟩ := CaseRun.covers_iff.1 h
  simp only [CaseRun.lastImage, CaseRun.image]
  omega

theorem CaseRun.toNat_ofNat_image
    (hvalid : run.lastImage < 0xD800 ∨ 0xDFFF < run.target ∧ run.lastImage < 0x110000)
    (h : run.covers code = true) : (Char.ofNat (run.image code)).toNat = run.image code := by
  have hle := CaseRun.image_le h
  have hchar : (run.image code).isValidChar := by
    simp only [Nat.isValidChar]
    omega
  rw [Char.ofNat, dif_pos hchar]
  rfl

theorem toNat_ofNat_image (hrun : run ∈ lowerRuns) (h : run.covers code = true) :
    (Char.ofNat (run.image code)).toNat = run.image code :=
  CaseRun.toNat_ofNat_image (runs_image_valid run hrun).1 h

theorem CaseRun.leadsInto_of_covers {next : CaseRun} (h : run.covers code = true)
    (hnext : next.covers (run.image code) = true) : run.leadsInto next = true := by
  have hle := CaseRun.image_le h
  obtain ⟨h₁, h₂, hstep⟩ := CaseRun.covers_iff.1 h
  obtain ⟨hlow, hhigh, hmod⟩ := CaseRun.covers_iff.1 hnext
  simp only [CaseRun.leadsInto, Bool.and_eq_true, Nat.ble_eq, Bool.not_eq_true',
    Bool.and_eq_false_imp, Bool.or_eq_true, Nat.beq_eq]
  refine ⟨⟨by omega, by omega⟩, fun ⟨hnext2, hrun2⟩ => ?_⟩
  -- both go in steps of two, so that an image on a source means starts of the same parity
  rw [hnext2] at hmod
  simp only [CaseRun.image] at hlow hmod
  rw [Bool.eq_false_iff, Ne, Nat.beq_eq]
  rcases hrun2 with hrun2 | hsingle
  · rw [hrun2] at hstep
    omega
  · omega

/-- An image is covered by no run. -/
theorem covers_image_eq_false (hrun : run ∈ lowerRuns) (h : run.covers code = true)
    {next : CaseRun} (hnext : next ∈ lowerRuns) : next.covers (run.image code) = false := by
  rw [← Bool.not_eq_true]
  intro hcovers
  have hall := List.all_eq_true.1 (List.all_eq_true.1 runs_do_not_chain run hrun) next hnext
  rw [CaseRun.leadsInto_of_covers h hcovers] at hall
  cases hall

/-! ## One character -/

/-- The three ways in which a character gets its small form. -/
theorem lowerChar_cases (c : Char) :
    lowerChar c = [c] ∧ (∀ run ∈ lowerRuns, run.covers c.toNat = false) ∨
      c.toNat = 0x130 ∧ lowerChar c = ['i', Char.ofNat 0x307] ∨
        ∃ run ∈ lowerRuns, run.covers c.toNat = true ∧
          lowerChar c = [Char.ofNat (run.image c.toNat)] := by
  unfold lowerChar mapCase
  split
  case h_1 codes hcodes =>
    simp only [lowerExpansions, List.lookup_cons, List.lookup_nil] at hcodes
    split at hcodes
    · next hc =>
      refine Or.inr (Or.inl ⟨by simpa using hc, ?_⟩)
      cases hcodes
      rfl
    · cases hcodes
  case h_2 =>
    split
    case h_1 run hfind =>
      exact Or.inr (Or.inr ⟨run, List.mem_of_find?_eq_some hfind,
        List.find?_some (p := (CaseRun.covers · c.toNat)) hfind, rfl⟩)
    case h_2 hfind =>
      refine Or.inl ⟨rfl, fun run hrun => ?_⟩
      simpa using List.find?_eq_none.1 hfind run hrun

theorem mapCase_ne_nil (runs : List CaseRun) {expansions : List (Nat × List Nat)}
    (h : ∀ pair ∈ expansions, pair.2 ≠ []) (c : Char) : mapCase runs expansions c ≠ [] := by
  unfold mapCase
  split
  · next codes hcodes =>
    obtain ⟨before, after, hmem, -⟩ := List.lookup_eq_some_iff.1 hcodes
    simpa using h (c.toNat, codes) (by rw [hmem]; simp)
  · split <;> simp

theorem lowerChar_ne_nil (c : Char) : lowerChar c ≠ [] := mapCase_ne_nil _ (by decide) c

theorem upperChar_ne_nil (c : Char) : upperChar c ≠ [] := mapCase_ne_nil _ (by decide +kernel) c

theorem isMark_iff {c : Char} :
    isMark c = true ↔ ∃ range ∈ markRanges, range.1 ≤ c.toNat ∧ c.toNat ≤ range.2 := by
  simp only [isMark, CodeRanges.contains, List.any_eq_true, Bool.and_eq_true, decide_eq_true_eq]

theorem covers_eq_false_of_isMark {c : Char} (hc : isMark c = true) (hrun : run ∈ lowerRuns) :
    run.covers c.toNat = false := by
  obtain ⟨range, hrange, hlow, hhigh⟩ := isMark_iff.1 hc
  have := (runs_avoid_marks run hrun range hrange).1
  rw [← Bool.not_eq_true, CaseRun.covers_iff]
  omega

theorem lowerChar_of_isMark {c : Char} (hc : isMark c = true) : lowerChar c = [c] := by
  rcases lowerChar_cases c with ⟨h, -⟩ | ⟨hcode, -⟩ | ⟨run, hrun, hcovers, -⟩
  · exact h
  · rw [isMark, CodeRanges.contains, hcode] at hc
    exact absurd hc (by decide)
  · rw [covers_eq_false_of_isMark hc hrun] at hcovers
    cases hcovers

/-- **A mark is the small form of itself alone.** -/
theorem mem_lowerChar_of_isMark {c d : Char} (hd : isMark d = true) : d ∈ lowerChar c ↔ d = c := by
  refine ⟨fun hmem => ?_, fun h => by rw [← h, lowerChar_of_isMark hd]; simp⟩
  rcases lowerChar_cases c with ⟨h, -⟩ | ⟨-, h⟩ | ⟨run, hrun, hcovers, h⟩
  · simpa [h] using hmem
  · rw [h] at hmem
    simp only [List.mem_cons, List.not_mem_nil, or_false] at hmem
    rcases hmem with rfl | rfl <;> exact absurd hd (by decide)
  · obtain rfl : d = Char.ofNat (run.image c.toNat) := by simpa [h] using hmem
    obtain ⟨range, hrange, hlow, hhigh⟩ := isMark_iff.1 hd
    rw [toNat_ofNat_image hrun hcovers] at hlow hhigh
    have := (runs_avoid_marks run hrun range hrange).2
    have := CaseRun.image_le hcovers
    omega

/-- The character is its own small form wherever it stands. -/
def IsSmall (c : Char) : Prop := c ≠ 'Σ' ∧ lowerChar c = [c]

theorem isSmall_of_not_covers {c : Char} (hcode : c.toNat ≠ 0x3A3 ∧ c.toNat ≠ 0x130)
    (h : ∀ run ∈ lowerRuns, run.covers c.toNat = false) : IsSmall c := by
  refine ⟨fun hc => hcode.1 (by rw [hc]; rfl), ?_⟩
  rcases lowerChar_cases c with ⟨hc, -⟩ | ⟨hc, -⟩ | ⟨run, hrun, hcovers, -⟩
  · exact hc
  · exact absurd hc hcode.2
  · rw [h run hrun] at hcovers
    cases hcovers

/-- The small form of a character consists of small characters. -/
theorem isSmall_of_mem_lowerChar {c d : Char} (hc : c ≠ 'Σ') (hd : d ∈ lowerChar c) :
    IsSmall d := by
  rcases lowerChar_cases c with ⟨h, -⟩ | ⟨-, h⟩ | ⟨run, hrun, hcovers, h⟩
  · obtain rfl : d = c := by simpa [h] using hd
    exact ⟨hc, h⟩
  · simp only [h, List.mem_cons, List.not_mem_nil, or_false] at hd
    rcases hd with rfl | rfl <;> exact ⟨by decide, by decide +kernel⟩
  · obtain rfl : d = Char.ofNat (run.image c.toNat) := by simpa [h] using hd
    have hnat := toNat_ofNat_image hrun hcovers
    have hle := CaseRun.image_le hcovers
    have hvalid := (runs_image_valid run hrun).2
    refine isSmall_of_not_covers ?_ fun next hnext => ?_
    · rw [hnat]
      omega
    · rw [hnat]
      exact covers_image_eq_false hrun hcovers hnext

/-- Every ASCII character has the small form that is taken without tables. -/
theorem lowerChar_of_ascii {c : Char} (hc : c.toNat < 128) : lowerChar c = [c.toLower] := by
  have key : ∀ n : Fin 128, lowerChar (Char.ofNat n) = [(Char.ofNat n).toLower] := by
    decide +kernel
  simpa using key ⟨c.toNat, hc⟩

/-- What has a small form in ASCII is in ASCII, but for the Kelvin sign and the dotted I. -/
theorem ascii_of_mem_lowerChar {c d : Char} (hd : d ∈ lowerChar c) (hlt : d.toNat < 128) :
    c.toNat < 128 ∨ c.toNat = 0x130 ∨ d = 'k' := by
  rcases lowerChar_cases c with ⟨h, -⟩ | ⟨h, -⟩ | ⟨run, hrun, hcovers, h⟩
  · obtain rfl : d = c := by simpa [h] using hd
    exact Or.inl hlt
  · exact Or.inr (Or.inl h)
  · obtain rfl : d = Char.ofNat (run.image c.toNat) := by simpa [h] using hd
    have hle := CaseRun.image_le hcovers
    obtain ⟨hlow, hhigh, -⟩ := CaseRun.covers_iff.1 hcovers
    rw [toNat_ofNat_image hrun hcovers] at hlt
    rcases runs_into_ascii run hrun with hlast | htarget | ⟨hfirst, hlast, htarget⟩
    · exact Or.inl (by omega)
    · omega
    · refine Or.inr (Or.inr ?_)
      have hcode : c.toNat = 0x212A := by omega
      rw [CaseRun.image, hcode, hfirst, htarget]

/-! ## Texts -/

/-- `form` can stand for `c` in the small form of a text. -/
structure IsSmallForm (c : Char) (form : Text) : Prop where
  ne_nil : form ≠ []
  small : ∀ d ∈ form, IsSmall d
  of_isMark : isMark c = true → form = [c]
  eq_of_isMark : ∀ d ∈ form, isMark d = true → d = c

theorem isSmallForm_lowerChar {c : Char} (hc : c ≠ 'Σ') : IsSmallForm c (lowerChar c) where
  ne_nil := lowerChar_ne_nil c
  small _ hd := isSmall_of_mem_lowerChar hc hd
  of_isMark := lowerChar_of_isMark
  eq_of_isMark _ hd hmark := (mem_lowerChar_of_isMark hmark).1 hd

theorem isSmallForm_sigma (final : Bool) : IsSmallForm 'Σ' [if final then 'ς' else 'σ'] where
  ne_nil := by simp
  small d hd := by
    obtain rfl := List.mem_singleton.1 hd
    cases final <;> exact ⟨by decide, by decide +kernel⟩
  of_isMark h := absurd h (by decide)
  eq_of_isMark d hd h := by
    obtain rfl := List.mem_singleton.1 hd
    cases final <;> exact absurd h (by decide)

/-- A text beside a small form of it, character by character. -/
inductive Lowered : Text → Text → Prop
  | nil : Lowered [] []
  | cons {c : Char} {form t u : Text} :
      IsSmallForm c form → Lowered t u → Lowered (c :: t) (form ++ u)

theorem lowered_lowerAfter (before t : Text) : Lowered t (lowerAfter before t) := by
  induction t generalizing before with
  | nil => exact Lowered.nil
  | cons c t ih =>
    refine Lowered.cons ?_ (ih (c :: before))
    split
    · next hc =>
      rw [hc]
      exact isSmallForm_sigma _
    · next hc => exact isSmallForm_lowerChar hc

theorem lowered_lower (t : Text) : Lowered t (lower t) := lowered_lowerAfter [] t

namespace Lowered

variable {t u : Text}

theorem small (h : Lowered t u) : ∀ d ∈ u, IsSmall d := by
  induction h with
  | nil => simp
  | cons hform _ ih =>
    intro d hd
    rcases List.mem_append.1 hd with hd | hd
    · exact hform.small d hd
    · exact ih d hd

theorem mem_iff_of_isMark (h : Lowered t u) {d : Char} (hd : isMark d = true) :
    d ∈ u ↔ d ∈ t := by
  induction h with
  | nil => rfl
  | @cons c form t u hform _ ih =>
    have hhead : d ∈ form ↔ d = c :=
      ⟨fun hmem => hform.eq_of_isMark d hmem hd, fun hc => by
        rw [hform.of_isMark (hc ▸ hd)]
        exact List.mem_singleton.2 hc⟩
    rw [List.mem_append, List.mem_cons, hhead, ih]

/-- The small form consists of marks of one kind just if the text does. -/
theorem forall_iff_of_isMark (h : Lowered t u) {p : Char → Prop}
    (hp : ∀ c, p c → isMark c = true) : (∀ d ∈ u, p d) ↔ ∀ c ∈ t, p c := by
  induction h with
  | nil => simp
  | @cons c form t u hform _ ih =>
    have hhead : (∀ d ∈ form, p d) ↔ p c := by
      constructor
      · intro hall
        obtain ⟨d, hd⟩ := List.exists_mem_of_ne_nil form hform.ne_nil
        exact hform.eq_of_isMark d hd (hp d (hall d hd)) ▸ hall d hd
      · intro hc
        rw [hform.of_isMark (hp c hc)]
        simpa using hc
    rw [List.forall_mem_append, List.forall_mem_cons, hhead, ih]

/-- A mark in front of the small form is in front of the text. -/
theorem head?_of_isMark (h : Lowered t u) {d : Char} (hd : isMark d = true)
    (hhead : u.head? = some d) : t.head? = some d := by
  cases h with
  | nil => cases hhead
  | @cons c form t u hform _ =>
    obtain ⟨e, form', rfl⟩ := List.exists_cons_of_ne_nil hform.ne_nil
    obtain rfl : e = d := by simpa using hhead
    rw [List.head?_cons, hform.eq_of_isMark e (by simp) hd]

theorem eq_nil_iff (h : Lowered t u) : u = [] ↔ t = [] := by
  cases h with
  | nil => rfl
  | cons hform _ => simp [hform.ne_nil]

/-- A mark at the end of the small form is at the end of the text. -/
theorem getLast?_of_isMark (h : Lowered t u) {d : Char} (hd : isMark d = true)
    (hlast : u.getLast? = some d) : t.getLast? = some d := by
  induction h with
  | nil => cases hlast
  | @cons c form t u hform hrest ih =>
    rw [List.getLast?_append] at hlast
    cases hu : u.getLast? with
    | some e =>
      obtain rfl : e = d := by simpa [hu] using hlast
      rw [List.getLast?_cons, ih hu]
      rfl
    | none =>
      -- nothing follows, so that the mark stands in the form of the last character
      obtain rfl : t = [] := hrest.eq_nil_iff.1 (List.getLast?_eq_none_iff.1 hu)
      rw [hu, Option.none_or] at hlast
      rw [List.getLast?_singleton, hform.eq_of_isMark d (List.mem_of_getLast? hlast) hd]

end Lowered

theorem lowerAfter_of_small (before : Text) {t : Text} (h : ∀ c ∈ t, IsSmall c) :
    lowerAfter before t = t := by
  induction t generalizing before with
  | nil => rfl
  | cons c t ih =>
    obtain ⟨hsigma, hc⟩ := h c (by simp)
    rw [lowerAfter, if_neg hsigma, hc, ih _ fun d hd => h d (by simp [hd])]
    rfl

/-- **The small form of a text is its own small form.** -/
theorem lower_lower (t : Text) : lower (lower t) = lower t :=
  lowerAfter_of_small [] (lowered_lower t).small

theorem lower_eq_nil_iff {t : Text} : lower t = [] ↔ t = [] := (lowered_lower t).eq_nil_iff

theorem upper_eq_nil_iff {t : Text} : upper t = [] ↔ t = [] := by
  cases t with
  | nil => exact iff_of_true rfl rfl
  | cons c t => simp [upper, upperChar_ne_nil]

/-! ## Words in ASCII -/

theorem lowerAfter_of_ascii (before : Text) {t : Text} (h : ∀ c ∈ t, c.toNat < 128) :
    lowerAfter before t = t.map Char.toLower := by
  induction t generalizing before with
  | nil => rfl
  | cons c t ih =>
    have hc := h c (by simp)
    have hsigma : c ≠ 'Σ' := by
      rintro rfl
      exact absurd hc (by decide)
    rw [lowerAfter, if_neg hsigma, lowerChar_of_ascii hc, ih _ fun d hd => h d (by simp [hd])]
    rfl

/-- A text with a small form in ASCII is in ASCII itself, unless there is a k in the form. -/
theorem ascii_of_lowerAfter (before : Text) {t : Text}
    (h : ∀ d ∈ lowerAfter before t, d.toNat < 128 ∧ d ≠ 'k') : ∀ c ∈ t, c.toNat < 128 := by
  induction t generalizing before with
  | nil => simp
  | cons c t ih =>
    rw [lowerAfter, List.forall_mem_append] at h
    obtain ⟨hform, hrest⟩ := h
    refine List.forall_mem_cons.2 ⟨?_, ih _ hrest⟩
    split at hform
    · -- neither of the two small sigmas is in ASCII
      split at hform <;> exact absurd (hform _ (List.mem_singleton_self _)).1 (by decide)
    · obtain ⟨d, hd⟩ := List.exists_mem_of_ne_nil _ (lowerChar_ne_nil c)
      obtain ⟨hlt, hk⟩ := hform d hd
      rcases ascii_of_mem_lowerChar hd hlt with hc | hc | hc
      · exact hc
      · -- the dotted I brings a combining dot with it
        obtain rfl : c = 'İ' := Char.toNat_inj.1 hc
        exact absurd (hform (Char.ofNat 0x307) (by decide +kernel)).1 (by decide)
      · exact absurd hc hk

/-- **A text is a word in small letters up to full case mapping just if it is that word up to the
case of ASCII letters.** The Kelvin sign is why the word must not have a k. -/
theorem lower_eq_iff_sameWord {word : Text}
    (hword : ∀ d ∈ word, d.toNat < 128 ∧ d ≠ 'k' ∧ d.toLower = d) (t : Text) :
    lower t = word ↔ sameWord t word = true := by
  have hsmall : word.map Char.toLower = word := by
    rw [List.map_congr_left fun d hd => (hword d hd).2.2, List.map_id']
  rw [sameWord, beq_iff_eq, hsmall]
  constructor
  · intro h
    have hascii : ∀ c ∈ t, c.toNat < 128 := ascii_of_lowerAfter [] fun d hd => by
      have hd' := hword d (h ▸ hd)
      exact ⟨hd'.1, hd'.2.1⟩
    rw [← h, lower, lowerAfter_of_ascii [] hascii]
  · intro h
    rw [← h]
    refine lowerAfter_of_ascii [] fun c hc => ?_
    have hlt := (hword c.toLower (h ▸ List.mem_map_of_mem hc)).1
    by_cases hupper : c.val ≥ 'A'.val ∧ c.val ≤ 'Z'.val
    · exact Nat.lt_of_le_of_lt (UInt32.le_iff_toNat_le.1 hupper.2) (by decide)
    · have hsame : c.toLower = c := dif_neg hupper
      rwa [hsame] at hlt

end CardCatalog.Text
