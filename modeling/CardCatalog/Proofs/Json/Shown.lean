import CardCatalog.Filter.Layout
import CardCatalog.Proofs.Filter.Fields
import CardCatalog.Proofs.Json.Pretty
import CardCatalog.Proofs.Term.Writing
import CardCatalog.Query.Layout
import CardCatalog.Token.Layout
import Mathlib.Data.List.Basic
import Mathlib.Data.Prod.Basic
import Mathlib.Data.Set.Function

/-!
# What JSON shows is all there is

Filters, queries and tokens can be told apart by the JSON that shows them. Keys, operators and
combinators have different names, and the forms of constraints different shapes
(`Constraint.toJson_injective`). Fields are shown by name only: they can be told apart if they are
those that their names stand for (`Field.IsCanonical`), as the fields of every term that was read
are (`Term.isCanonical_ofToken`).

With the indented form, which is unambiguous, the three outputs say all there is to say
(`Json.pretty_shown_eq_iff`).
-/

namespace CardCatalog

/-! ## Lists and names -/

/-- Lists are told apart by what tells their members apart. -/
theorem map_injOn {α β : Type*} {f : α → β} {s : Set α} (hf : Set.InjOn f s) {xs ys : List α}
    (hxs : ∀ x ∈ xs, x ∈ s) (hys : ∀ y ∈ ys, y ∈ s) (h : xs.map f = ys.map f) : xs = ys := by
  induction xs generalizing ys with
  | nil => exact (List.map_eq_nil_iff.1 h.symm).symm
  | cons x xs ih =>
    cases ys with
    | nil => cases h
    | cons y ys =>
      obtain ⟨hx, hxs⟩ := List.forall_mem_cons.1 hxs
      obtain ⟨hy, hys⟩ := List.forall_mem_cons.1 hys
      obtain ⟨hhead, htail⟩ := List.cons.inj h
      rw [hf hx hy hhead, ih hxs hys htail]

theorem Operator.symbol_injective : Function.Injective Operator.symbol := by
  intro a b h
  rw [← Option.some.injEq, ← ofSymbol?_symbol a, h, ofSymbol?_symbol b]

theorem Combinator.word_injective : Function.Injective Combinator.word := by
  intro a b h
  cases a with
  | and =>
    cases b with
    | and => rfl
    | or => exact absurd h (by decide)
  | or =>
    cases b with
    | and => exact absurd h (by decide)
    | or => rfl

theorem Key.name_injective : Function.Injective Key.name := by
  have key : ∀ a ∈ Key.all, ∀ b ∈ Key.all, a.name = b.name → a = b := by decide +kernel
  exact fun a b => key a (Filter.mem_all a) b (Filter.mem_all b)

/-! ## Simple values -/

namespace Json

theorem getD_null_injective {α : Type} {f : α → Json} (hf : Function.Injective f)
    (hnull : ∀ a, f a ≠ .null) : Function.Injective fun a? : Option α => (a?.map f).getD .null := by
  rintro (_ | a) (_ | b) h
  · rfl
  · exact absurd h.symm (hnull b)
  · exact absurd h (hnull a)
  · rw [hf h]

theorem ofText?_injective : Function.Injective ofText? :=
  getD_null_injective (fun _ _ => Json.text.inj) nofun

theorem ofInt?_injective : Function.Injective ofInt? :=
  getD_null_injective (fun _ _ => Json.int.inj) nofun

theorem ofTexts_injective : Function.Injective ofTexts := by
  have htext : Function.Injective Json.text := fun _ _ => Json.text.inj
  intro ts us h
  exact List.map_injective_iff.2 htext (Json.list.inj h)

end Json

/-! ## Tokens -/

namespace Token

theorem toJson_injective : Function.Injective toJson := by
  rintro ⟨t, m⟩ ⟨u, n⟩ h
  simp only [toJson, Json.object.injEq, List.cons.injEq, Prod.mk.injEq, Json.text.injEq,
    Json.int.injEq, Int.natCast_inj, true_and, and_true] at h
  rw [h.1, h.2]

theorem listJson_injective : Function.Injective listJson := by
  intro tokens others h
  have hlists : tokens.map toJson = others.map toJson := by simpa [listJson] using h
  exact List.map_injective_iff.2 toJson_injective hlists

end Token

/-! ## Queries -/

namespace Term

/-- The term has no field, or one that its name stands for. -/
def IsCanonical (term : Term) : Prop := ∀ field ∈ term.field, field.IsCanonical

theorem isCanonical_ofBody (body : Text) (negated : Bool) : (ofBody body negated).IsCanonical := by
  rcases ofBody_cases body negated with
    ⟨phrase, -, h⟩ | ⟨name, symbol, value, operator, -, -, -, h⟩ | ⟨-, h⟩ <;> rw [h]
  · rintro field ⟨⟩
  · intro field hfield
    rw [onField_field, Option.mem_some_iff] at hfield
    exact hfield ▸ Field.isCanonical_ofName name
  · rintro field ⟨⟩

theorem isCanonical_ofToken (token : Text) : (ofToken token).IsCanonical := by
  rcases ofToken_cases token with ⟨body, -, h, -⟩ | ⟨-, h, -⟩ <;> rw [h]
  · exact isCanonical_ofBody body true
  · exact isCanonical_ofBody token false

theorem injOn_toJson : Set.InjOn toJson {term | term.IsCanonical} := by
  rintro ⟨field, operator, value, negated⟩ hterm ⟨field', operator', value', negated'⟩ hother h
  simp only [toJson, Json.object.injEq, List.cons.injEq, Prod.mk.injEq, Json.text.injEq,
    Json.bool.injEq, true_and, and_true] at h
  obtain ⟨hfield, hoperator, rfl, rfl⟩ := h
  obtain rfl := Operator.symbol_injective hoperator
  have hnames := Json.ofText?_injective hfield
  cases field with
  | none =>
    cases field' with
    | none => rfl
    | some field' => cases hnames
  | some field =>
    cases field' with
    | none => cases hnames
    | some field' =>
      rw [(hterm field rfl).eq_of_canonicalName_eq (hother field' rfl) (Option.some.inj hnames)]

/-- An unknown field that bears a known name would be shown like the known one. -/
example : toJson ⟨some (.other "force"), .greater, "3", false⟩ =
    toJson ⟨some (.numeric .force), .greater, "3", false⟩ := rfl

end Term

namespace Query

theorem injOn_toJson : Set.InjOn toJson {query | ∀ term ∈ query.terms, term.IsCanonical} := by
  rintro ⟨combinator, terms⟩ hquery ⟨combinator', terms'⟩ hother h
  simp only [toJson, Json.object.injEq, List.cons.injEq, Prod.mk.injEq, Json.text.injEq,
    Json.list.injEq, true_and, and_true] at h
  obtain ⟨hword, hterms⟩ := h
  obtain rfl := Combinator.word_injective hword
  obtain rfl := map_injOn Term.injOn_toJson hquery hother hterms
  rfl

theorem isCanonical_of_mem_ofText {expression : Text} {term : Term}
    (h : term ∈ (ofText expression).terms) : term.IsCanonical := by
  obtain ⟨token, -, rfl⟩ := List.mem_map.1 h
  exact Term.isCanonical_ofToken token

end Query

/-! ## Filters -/

/-- **Constraints are told apart by their shape and what it holds.** -/
theorem Constraint.toJson_injective : Function.Injective Constraint.toJson := by
  intro a b h
  cases a with
  | list values =>
    cases b with
    | list values' => rw [Json.ofTexts_injective h]
    | _ => cases h
  | range ends =>
    cases b with
    | range ends' =>
      obtain ⟨low, high⟩ := ends
      obtain ⟨low', high'⟩ := ends'
      simp only [toJson, Json.object.injEq, List.cons.injEq, Prod.mk.injEq, true_and,
        and_true] at h
      rw [Json.ofInt?_injective h.1, Json.ofInt?_injective h.2]
    | legality => simp [toJson] at h
    | _ => cases h
  | flag value =>
    cases b with
    | flag value' => cases h; rfl
    | _ => cases h
  | legality format statuses =>
    cases b with
    | legality format' statuses' =>
      simp only [toJson, Json.object.injEq, List.cons.injEq, Prod.mk.injEq, Json.text.injEq,
        true_and, and_true] at h
      rw [h.1, Json.ofTexts_injective h.2]
    | range => simp [toJson] at h
    | _ => cases h

namespace Filter

theorem mem_entries_iff {filter : Filter} {key : Key} {constraint : Constraint} :
    (key, constraint) ∈ filter.entries ↔ filter.constraint key = some constraint := by
  simp [entries, mem_all]

/-- The entries are all that a filter holds besides its text. -/
theorem constraint_eq_of_entries_eq {filter other : Filter} (h : filter.entries = other.entries) :
    filter.constraint = other.constraint := by
  funext key
  refine Option.ext fun constraint => ?_
  rw [← mem_entries_iff, ← mem_entries_iff, h]

theorem toJson_injective : Function.Injective toJson := by
  intro filter other h
  have hentry : Function.Injective fun entry : Key × Constraint =>
      (entry.1.name, entry.2.toJson) :=
    Key.name_injective.prodMap Constraint.toJson_injective
  simp only [toJson, Json.object.injEq, List.cons.injEq, Prod.mk.injEq, Json.text.injEq,
    true_and, and_true] at h
  obtain ⟨htext, hentries⟩ := h
  exact Filter.ext htext
    (constraint_eq_of_entries_eq (List.map_injective_iff.2 hentry hentries))

end Filter

/-! ## Outputs -/

/-- **Two expressions are answered alike in JSON just if the answers are alike**: filters, under
any bound policies, queries and lists of tokens. -/
theorem Json.pretty_shown_eq_iff (expression other : Text) (policy policy' : BoundPolicy) :
    (pretty (Filter.compile policy (Query.ofText expression)).toJson =
        pretty (Filter.compile policy' (Query.ofText other)).toJson ↔
      Filter.compile policy (Query.ofText expression) =
        Filter.compile policy' (Query.ofText other)) ∧
    (pretty (Query.ofText expression).toJson = pretty (Query.ofText other).toJson ↔
      Query.ofText expression = Query.ofText other) ∧
    (pretty (Token.listJson (Token.scan expression)) =
        pretty (Token.listJson (Token.scan other)) ↔
      Token.scan expression = Token.scan other) := by
  have hquery : (Query.ofText expression).toJson = (Query.ofText other).toJson ↔
      Query.ofText expression = Query.ofText other :=
    Query.injOn_toJson.eq_iff (fun _ => Query.isCanonical_of_mem_ofText)
      fun _ => Query.isCanonical_of_mem_ofText
  rw [pretty_injective.eq_iff, pretty_injective.eq_iff, pretty_injective.eq_iff, hquery,
    Filter.toJson_injective.eq_iff, Token.listJson_injective.eq_iff]
  exact ⟨Iff.rfl, Iff.rfl, Iff.rfl⟩

end CardCatalog
