import Promotion.Proofs.Erasure
import Promotion.Proofs.OneClass
/-!
# Constructor bodies

A body is divided behind its first call of the base constructor (`Divided`).  Statements that are put in there leave it
divided at the same place as long as none of them is such a call (`Divided.insert`).  So a place that was found in the
old body is right in the new one too, and what is put in later stands before what was put in first.

An assignment `this.x = x;` is recognised by what it is and not by where it was read from.  `Stmt.Sets` says what it is.
The recogniser reads it off the statement (`Stmt.promoted?_eq_some_iff`), and comparing the statement without its spans
comes to the same (`Stmt.eraseSpans_eq_assignment_iff`).
-/
namespace Promotion

variable {ν : Type}

/-! ## Putting assignments in -/

section Insertion

variable {front back : List (Stmt ν)} {call : Option Nat}

/-- Statements without a call of the base constructor leave the body divided where it was. -/
theorem Divided.insert (h : Divided front back call) {xs : List (Stmt ν)} (hx : ∀ x ∈ xs, x.isSuperCall = false) :
    Divided front (xs ++ back) call := by
  cases h with
  | atFront hb => exact .atFront (List.forall_mem_append.2 ⟨hx, hb⟩)
  | behind hb hc => exact .behind hb hc

/-- **Putting assignments into a body is stable and composes.**  Taken out again from the index that was given, the
statements `xs` leave the body as it was.  If none of them calls the base constructor, the first such call and the place
for assignments are where they were, and putting `ys` into the new body is the same as putting `ys ++ xs` into the old
one, index included. -/
theorem placeAssignments_stable (body xs ys : List (Stmt ν)) (hx : ∀ x ∈ xs, x.isSuperCall = false) :
    ∃ i body', placeAssignments body xs = (i, body') ∧
      body'.take i ++ body'.drop (i + xs.length) = body ∧ (body'.drop i).take xs.length = xs ∧
      superCall? body' = superCall? body ∧ insertionIndex body' = insertionIndex body ∧
      placeAssignments body' ys = placeAssignments body (ys ++ xs) := by
  obtain ⟨front, back, hb, hd⟩ := exists_divided body
  have hd' := hd.insert hx
  have hi : insertionIndex body = front.length := hb ▸ hd.insertionIndex_append
  have hi' := hd'.insertionIndex_append
  have hp : ∀ zs, placeAssignments body zs = (front.length, front ++ zs ++ back) := by
    intro zs
    rw [placeAssignments, hi, hb, hd.insertAssignments_append]
  refine ⟨front.length, front ++ (xs ++ back), ?_, ?_, ?_, ?_, ?_, ?_⟩
  · rw [hp, List.append_assoc]
  · rw [List.take_left, ← List.drop_drop, List.drop_left, List.drop_left, hb]
  · rw [List.drop_left, List.take_left]
  · rw [hd'.superCall?_append]
  · rw [hi', hi]
  · rw [hp, placeAssignments, hi', hd'.insertAssignments_append]
    simp only [List.append_assoc]

/-- A body with two calls of the base constructor, into which an assignment is put and then one more such call. -/
theorem placeAssignments_stable_twoCalls :
    let call : Stmt String := .expr (.call (.super default) [] default) default
    let body := [.empty default, call, call]
    let xs := [Ident.assignment ⟨"x", default⟩]
    (∀ x ∈ xs, x.isSuperCall = false) ∧
    ∃ i body', placeAssignments body xs = (i, body') ∧
      body'.take i ++ body'.drop (i + xs.length) = body ∧ (body'.drop i).take xs.length = xs ∧
      superCall? body' = superCall? body ∧ insertionIndex body' = insertionIndex body ∧
      placeAssignments body' [call] = placeAssignments body ([call] ++ xs) := by
  intro call body xs
  have hx : ∀ x ∈ xs, x.isSuperCall = false := by decide
  exact ⟨hx, placeAssignments_stable body xs [call] hx⟩

end Insertion

/-! ## Recognising assignments -/

/-- The statement is `this.p = q;`, whatever the spans of its nodes. -/
inductive Stmt.Sets : Stmt ν → Ident ν → Ident ν → Prop where
  | intro (p q : Ident ν) (s₁ s₂ s₃ s₄ : Span) :
    Sets (.expr (.assign .set (.member (.this s₁) p false s₂) (.ident q) s₃) s₄) p q

/-- The identifier that stands alone on the right-hand side of an assignment. -/
def Stmt.rightSide? : Stmt ν → Option (Ident ν)
  | .expr (.assign _ _ (.ident id) _) _ => some id
  | _ => none

namespace Stmt

variable {x : Stmt ν} {p q id : Ident ν}

theorem Sets.rightSide? (h : x.Sets p q) : x.rightSide? = some q := by
  cases h
  rfl

theorem Sets.isSuperCall (h : x.Sets p q) : x.isSuperCall = false := by
  cases h
  rfl

theorem sets_assignment (id : Ident ν) : id.assignment.Sets id id := .intro ..

theorem promoted?_eq_some_iff [DecidableEq ν] :
    x.promoted? = some id ↔ ∃ p, x.Sets p id ∧ p.name = id.name := by
  constructor
  · intro h
    unfold promoted? at h
    split at h
    · rename_i s₁ p s₂ q s₃ s₄
      split at h
      · rename_i hn
        obtain rfl := Option.some.inj h
        exact ⟨p, .intro .., hn⟩
      · cases h
    · cases h
  · rintro ⟨p, ⟨⟩, hn⟩
    exact if_pos hn

/-- A statement becomes `this.x = x;` without its spans exactly if it is of this form, with `x` for both names. -/
theorem eraseSpans_eq_assignment_iff :
    x.eraseSpans = id.assignment.eraseSpans ↔ ∃ p q, x.Sets p q ∧ p.name = id.name ∧ q.name = id.name := by
  constructor
  · intro h
    obtain ⟨e, s₄, rfl, he⟩ := eq_expr_of_eraseSpans h
    obtain ⟨l, r, s₃, rfl, hl, hr⟩ := Expr.eq_assign_of_eraseSpans he
    obtain ⟨o, p, s₂, rfl, ho, hp⟩ := Expr.eq_member_of_eraseSpans hl
    obtain ⟨s₁, rfl⟩ := Expr.eq_this_of_eraseSpans ho
    obtain ⟨q, rfl, hq⟩ := Expr.eq_ident_of_eraseSpans hr
    exact ⟨p, q, .intro .., Ident.eraseSpans_eq_iff.1 hp, Ident.eraseSpans_eq_iff.1 hq⟩
  · rintro ⟨p, q, ⟨⟩, hp, hq⟩
    have hp' : p.eraseSpans = id.eraseSpans := Ident.eraseSpans_eq_iff.2 hp
    have hq' : q.eraseSpans = id.eraseSpans := Ident.eraseSpans_eq_iff.2 hq
    simp only [Ident.assignment, Stmt.eraseSpans, Expr.eraseSpans, hp', hq']

/-- **The recogniser accepts what promotion writes, and nothing else.**  It gives back the identifier of every
assignment.  It gives `id` for a statement exactly if the statement is the assignment of `id` but for spans and has `id`
itself, span included, on its right-hand side.  No statement that it accepts is a call of the base constructor. -/
theorem promoted?_matches_assignment [DecidableEq ν] :
    (∀ id : Ident ν, id.assignment.promoted? = some id) ∧
    (∀ (x : Stmt ν) (id : Ident ν),
      x.promoted? = some id ↔ x.eraseSpans = id.assignment.eraseSpans ∧ x.rightSide? = some id) ∧
    ∀ x : Stmt ν, x.promoted?.isSome = true → x.isSuperCall = false := by
  refine ⟨fun id => ?_, fun x id => ?_, fun x hx => ?_⟩
  · exact promoted?_eq_some_iff.2 ⟨id, sets_assignment id, rfl⟩
  · rw [promoted?_eq_some_iff, eraseSpans_eq_assignment_iff]
    constructor
    · rintro ⟨p, hx, hn⟩
      exact ⟨⟨p, id, hx, hn, rfl⟩, hx.rightSide?⟩
    · rintro ⟨⟨p, q, hx, hp, hq⟩, hr⟩
      rw [hx.rightSide?] at hr
      obtain rfl := Option.some.inj hr
      exact ⟨p, hx, hp⟩
  · obtain ⟨id, hid⟩ := Option.isSome_iff_exists.1 hx
    obtain ⟨p, hp, -⟩ := promoted?_eq_some_iff.1 hid
    exact hp.isSuperCall

end Stmt

end Promotion
