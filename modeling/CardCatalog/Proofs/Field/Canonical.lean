import CardCatalog.Field.Suggestion
import CardCatalog.Proofs.Text.Case
import Mathlib.Logic.Basic
import Mathlib.Tactic.SplitIfs

/-!
# Canonical names

A name is written for a field in one table, a field is found by its name in another one, and a third
one lists the names for the user. The tables agree (`canonicalName_ofCanonical`,
`ofCanonical_canonicalName`, `knownNames_eq`). So a field is found again under its canonical name,
whatever name it was written with: the name in small letters is its own small form, and what an
alias stands for is no alias of anything else.

* `canonicalName_ofName`: the name of a field that is found is the normal form of the written one.
* `normalize_normalize`, `ofName_canonicalName`: normal forms are stable.
* `IsCanonical`: the field is the one that its name stands for, as all fields that are found are.
* `ofName_eq_iff_normalize_eq`: written names stand for the same field just if they have the same
  normal form, and no name of a known field is left over for an unknown one.
-/

namespace CardCatalog

theorem Numeric.mem_all (which : Numeric) : which ∈ all := by cases which <;> decide

theorem Numeric.name_injective : Function.Injective name := by
  have key : ∀ a ∈ all, ∀ b ∈ all, a.name = b.name → a = b := by decide +kernel
  exact fun a b => key a a.mem_all b b.mem_all

/-- The search through the integer attributes finds the one with the name. -/
theorem Numeric.ofCanonical?_eq_some_iff {name : Text} {which : Numeric} :
    ofCanonical? name = some which ↔ which.name = name := by
  constructor
  · intro h
    have hname := List.find?_some h
    exact of_decide_eq_true hname
  · rintro rfl
    have hsome : (ofCanonical? which.name).isSome = true :=
      List.find?_isSome.2 ⟨which, which.mem_all, decide_eq_true rfl⟩
    obtain ⟨found, hfound⟩ := Option.isSome_iff_exists.1 hsome
    have hname := List.find?_some hfound
    rw [hfound, name_injective (of_decide_eq_true hname)]

namespace Field

/-! ## The tables of names -/

/-- The fields with a rule of their own, integer fields aside. -/
def categorical : List Field :=
  [.text, .name, .is, .deck, .type, .clan, .set, .rarity, .format]

/-- The fields that have a rule. -/
def known : List Field := categorical ++ Numeric.all.map .numeric

theorem mem_known_iff {field : Field} : field ∈ known ↔ ∀ name, field ≠ .other name := by
  cases field with
  | numeric which => simp [known, categorical, which.mem_all]
  | other name => simp [known, categorical]
  | _ => simp [known, categorical]

/-- **What is found under a name bears it.** -/
theorem canonicalName_ofCanonical (name : Text) : (ofCanonical name).canonicalName = name := by
  unfold ofCanonical
  split_ifs
  case neg =>
    -- No arm bears the name, so it is that of an integer attribute or of nothing that is known.
    cases hfind : Numeric.ofCanonical? name with
    | none => rfl
    | some which => exact Numeric.ofCanonical?_eq_some_iff.1 hfind
  all_goals
    symm
    assumption

/-- **A field with a rule is found under its name.** -/
theorem ofCanonical_canonicalName {field : Field} (h : field ∈ known) :
    ofCanonical field.canonicalName = field := by
  have key : ∀ field ∈ known, ofCanonical field.canonicalName = field := by decide +kernel
  exact key field h

/-- The names that are listed are those of the fields. -/
theorem knownNames_eq : knownNames = categorical.map canonicalName := rfl

theorem candidates_eq : candidates =
    categorical.map canonicalName ++ Numeric.all.map Numeric.name ++ aliases.map Prod.fst := by
  rw [candidates, knownNames_eq]

theorem canonicalName_mem_candidates {field : Field} (h : field ∈ known) :
    field.canonicalName ∈ candidates := by
  rw [candidates_eq]
  refine List.mem_append_left _ ?_
  rcases List.mem_append.1 h with hfield | hfield
  · exact List.mem_append_left _ (List.mem_map_of_mem hfield)
  · obtain ⟨which, hwhich, rfl⟩ := List.mem_map.1 hfield
    exact List.mem_append_right _ (List.mem_map_of_mem hwhich)

/-! ## Normal forms -/

@[simp] theorem canonicalName_ofName (written : Text) :
    (ofName written).canonicalName = normalize written := canonicalName_ofCanonical _

/-- A name in small ASCII letters only goes through the table of aliases. -/
theorem normalize_of_small {name : Text} (hascii : name.all (fun c => c.toNat < 128) = true)
    (hsmall : name.map Char.toLower = name) : normalize name = (aliases.lookup name).getD name := by
  have hlower : Text.lower name = name := by
    rw [Text.lower, Text.lowerAfter_of_ascii [] fun c hc => of_decide_eq_true
      (List.all_eq_true.1 hascii c hc), hsmall]
  rw [normalize, hlower]

/-- What an alias stands for is in small letters, and no alias of anything else. -/
theorem normalize_of_mem_aliases : ∀ pair ∈ aliases, normalize pair.2 = pair.2 := by
  have key : ∀ pair ∈ aliases, pair.2.all (fun c => c.toNat < 128) = true ∧
      pair.2.map Char.toLower = pair.2 ∧ (aliases.lookup pair.2).getD pair.2 = pair.2 := by
    decide +kernel
  intro pair hpair
  obtain ⟨hascii, hsmall, hlookup⟩ := key pair hpair
  rw [normalize_of_small hascii hsmall, hlookup]

/-- **The normal form of a name is its own normal form.** -/
theorem normalize_normalize (written : Text) :
    normalize (normalize written) = normalize written := by
  cases hlookup : aliases.lookup (Text.lower written) with
  | none =>
    have hsmall : normalize written = Text.lower written := by simp [normalize, hlookup]
    rw [hsmall, normalize, Text.lower_lower, hlookup]
    rfl
  | some canonical =>
    have hcanonical : normalize written = canonical := by simp [normalize, hlookup]
    obtain ⟨before, after, haliases, -⟩ := List.lookup_eq_some_iff.1 hlookup
    rw [hcanonical]
    exact normalize_of_mem_aliases (Text.lower written, canonical) (by rw [haliases]; simp)

/-- **A field is found under its canonical name.** -/
theorem ofName_canonicalName (written : Text) :
    ofName (ofName written).canonicalName = ofName written := by
  rw [canonicalName_ofName, ofName, normalize_normalize, ofName]

/-- The field is the one that its name stands for, so that an unknown field does not bear the name
of a known one. -/
def IsCanonical (field : Field) : Prop := ofName field.canonicalName = field

theorem isCanonical_ofName (written : Text) : (ofName written).IsCanonical :=
  ofName_canonicalName written

/-- **Fields that their names stand for are told apart by them.** -/
theorem IsCanonical.eq_of_canonicalName_eq {field other : Field} (hfield : field.IsCanonical)
    (hother : other.IsCanonical) (h : field.canonicalName = other.canonicalName) : field = other :=
  calc
    field = ofName field.canonicalName := hfield.symm
    _ = ofName other.canonicalName := by rw [h]
    _ = other := hother

/-! ## Known names -/

theorem ofCanonical_of_not_mem_known {name : Text} (h : ofCanonical name ∉ known) :
    ofCanonical name = .other name := by
  have hname := canonicalName_ofCanonical name
  rw [mem_known_iff, not_forall_not] at h
  obtain ⟨unknown, hunknown⟩ := h
  rw [hunknown] at hname ⊢
  exact congrArg other hname

/-- Canonical names and aliases all stand for known fields. -/
theorem ofName_mem_known_of_mem_candidates :
    ∀ candidate ∈ candidates, ofName candidate ∈ known := by
  have key : ∀ candidate ∈ candidates, candidate.all (fun c => c.toNat < 128) = true ∧
      candidate.map Char.toLower = candidate ∧
      ofCanonical ((aliases.lookup candidate).getD candidate) ∈ known := by
    decide +kernel
  intro candidate hcandidate
  obtain ⟨hascii, hsmall, hknown⟩ := key candidate hcandidate
  rwa [ofName, normalize_of_small hascii hsmall]

/-- An unknown field bears no name that stands for a known one. -/
theorem normalize_not_mem_candidates {written : Text} (h : ofName written ∉ known) :
    normalize written ∉ candidates := by
  intro hcandidate
  have hknown := ofName_mem_known_of_mem_candidates _ hcandidate
  rw [ofName, normalize_normalize, ← ofName] at hknown
  exact h hknown

/-- An unknown field bears no name that a known one has. -/
theorem canonicalName_ne_normalize {written : Text} (h : ofName written ∉ known) {field : Field}
    (hfield : field ∈ known) : field.canonicalName ≠ normalize written := by
  intro hname
  rw [ofName, ← hname, ofCanonical_canonicalName hfield] at h
  exact h hfield

/-- **Written names and fields**: a field bears the normal form of the written name and is found
again under it, so that the names of two fields tell them apart; two written names stand for one
field just if they have one normal form; and what is not a known field is an unknown one, under a
name that no known field has and that is not offered to the user. -/
theorem ofName_eq_iff_normalize_eq (written other : Text) :
    ofName (ofName written).canonicalName = ofName written ∧
      normalize (normalize written) = normalize written ∧
      (ofName written).canonicalName = normalize written ∧
      (ofName written = ofName other ↔ normalize written = normalize other) ∧
      (ofName written = ofName other ↔
        (ofName written).canonicalName = (ofName other).canonicalName) ∧
      (ofName written ∈ known ∨
        ofName written = .other (normalize written) ∧ normalize written ∉ candidates ∧
          ∀ field ∈ known, field.canonicalName ≠ normalize written) := by
  have hnames : ofName written = ofName other ↔
      (ofName written).canonicalName = (ofName other).canonicalName :=
    ⟨congrArg canonicalName,
      (isCanonical_ofName written).eq_of_canonicalName_eq (isCanonical_ofName other)⟩
  refine ⟨ofName_canonicalName written, normalize_normalize written, canonicalName_ofName written,
    ?_, hnames, ?_⟩
  · rwa [canonicalName_ofName, canonicalName_ofName] at hnames
  · by_cases hknown : ofName written ∈ known
    · exact Or.inl hknown
    · exact Or.inr ⟨ofCanonical_of_not_mem_known hknown, normalize_not_mem_candidates hknown,
        fun field hfield => canonicalName_ne_normalize hknown hfield⟩

end Field

end CardCatalog
