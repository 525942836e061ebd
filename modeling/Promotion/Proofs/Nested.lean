import Mathlib.Data.List.Basic
import Promotion.Proofs.Layout
/-!
# Classes inside classes

Laws of a part that has a layout, stated without it.  `Part.replace g` puts `g d` in the place of every outermost class
`d` and does not look into `d`; on the state it threads, a walk does what it does on the classes one by one.  What is
asked of a class in such a law is asked only if its classes are among those of the part, so a law of all classes is
proved by `ClassDecl.nested_induction`, from the classes inside a class to the class.
-/
namespace Promotion

variable {ν : Type} {α : Type} [Part ν α]

/-- The part with all its classes mapped bottom-up by a function without effects. -/
def Part.mapUp (f : ClassDecl ν → ClassDecl ν) (x : α) : α := Id.run (Part.mapClasses (fun d => pure (f d)) x)

/-- The class after the classes inside it have been mapped by `f`, and it after them. -/
def ClassDecl.mapUp (f : ClassDecl ν → ClassDecl ν) (d : ClassDecl ν) : ClassDecl ν := f (Part.mapUp f d)

namespace Context

variable {n : Nat} {fill : List (ClassDecl ν) → α} (hf : Context n fill) {ds : List (ClassDecl ν)} (hds : ds.length = n)

include hf hds

theorem replace_fill (g : ClassDecl ν → ClassDecl ν) : Part.replace g (fill ds) = fill (ds.map g) := by
  have h : ∀ d, ClassDecl.visit (.onlyClass fun d => pure (.replace (g d))) d = (pure (g d) : Id _) := fun _ => rfl
  unfold Part.replace
  rw [hf.visit _ ds hds, funext h, List.mapM_pure]
  rfl

theorem mapUp_fill (f : ClassDecl ν → ClassDecl ν) :
    Part.mapUp f (fill ds) = fill (ds.map (ClassDecl.mapUp f)) := by
  have h : ∀ d, ClassDecl.mapClasses (fun d => pure (f d)) d = (pure (ClassDecl.mapUp f d) : Id _) := fun _ => rfl
  unfold Part.mapUp
  rw [hf.mapClasses _ ds hds, funext h, List.mapM_pure]
  rfl

theorem classDecls_sublist {c : ClassDecl ν} (hc : c ∈ ds) : c.classDecls.Sublist (Part.classes (fill ds)) := by
  rw [hf.classes ds hds]
  exact List.sublist_flatten_of_mem (List.mem_map_of_mem hc)

end Context

section Lists

variable {α β γ : Type} {R : α → β → Prop} {as : List α} {bs : List β}

theorem map_eq_of_forall₂ {f : α → γ} {g : β → γ} (h : List.Forall₂ R as bs) (hfg : ∀ a b, R a b → f a = g b) :
    as.map f = bs.map g := by
  rw [← List.forall₂_eq_eq_eq]
  exact List.rel_map (fun a b hab => hfg a b hab) h

theorem filterMap_eq_of_forall₂ {f : α → Option γ} {g : β → Option γ} (h : List.Forall₂ R as bs)
    (hfg : ∀ a b, R a b → f a = g b) : as.filterMap f = bs.filterMap g := by
  have hr : ∀ a b, R a b → Option.Rel Eq (f a) (g b) := by
    intro a b hab
    rw [hfg a b hab]
    cases g b with
    | none => exact .none
    | some c => exact .some rfl
  rw [← List.forall₂_eq_eq_eq]
  exact List.rel_filterMap (fun a b hab => hr a b hab) h

end Lists

/-- Acting on a list step by step, each step adding to the state what `w` says. -/
theorem run_mapM {σ β γ δ : Type} {act : β → StateM σ γ} {g : β → γ} {w : β → List δ} {step : σ → δ → σ} :
    ∀ bs : List β, (∀ b ∈ bs, ∀ s, (act b).run s = (g b, (w b).foldl step s)) →
      ∀ s, (bs.mapM act).run s = (bs.map g, (bs.flatMap w).foldl step s)
  | [], _, s => rfl
  | b :: bs, h, s => by
    have hb := h b List.mem_cons_self s
    have hbs := run_mapM bs (fun c hc => h c (List.mem_cons_of_mem b hc)) ((w b).foldl step s)
    rw [List.mapM_cons, StateT.run_bind, hb, List.map_cons, List.flatMap_cons, List.foldl_append]
    exact congrArg (fun r => (g b :: r.1, r.2)) hbs

namespace Layout

variable {x : α} (hx : Layout x)

include hx

theorem mapUp_eq_replace (f : ClassDecl ν → ClassDecl ν) : Part.mapUp f x = Part.replace (ClassDecl.mapUp f) x := by
  obtain ⟨cs, fill, hf, rfl⟩ := hx
  rw [hf.mapUp_fill rfl, hf.replace_fill rfl]

theorem replace_eq_self {g : ClassDecl ν → ClassDecl ν}
    (h : ∀ c, c.classDecls.Sublist (Part.classes x) → g c = c) : Part.replace g x = x := by
  obtain ⟨cs, fill, hf, rfl⟩ := hx
  have hg : cs.map g = cs.map id := List.map_congr_left fun c hc => h c (hf.classDecls_sublist rfl hc)
  rw [hf.replace_fill rfl, hg, List.map_id]

theorem classes_replace {g f : ClassDecl ν → ClassDecl ν}
    (h : ∀ c, c.classDecls.Sublist (Part.classes x) → (g c).classDecls = c.classDecls.map f) :
    Part.classes (Part.replace g x) = (Part.classes x).map f := by
  obtain ⟨cs, fill, hf, rfl⟩ := hx
  rw [hf.replace_fill rfl, hf.classes _ (List.length_map _), hf.classes _ rfl, List.map_flatMap, List.flatMap_map]
  exact List.flatMap_congr fun c hc => h c (hf.classDecls_sublist rfl hc)

/-- **A walk acts on the state as its hook does on the classes one after the other**, and leaves the classes that the
hook leaves. -/
theorem run_visit {σ : Type} {hook : ClassDecl ν → StateM σ (Step (ClassDecl ν))} {g : ClassDecl ν → ClassDecl ν}
    {step : σ → ClassDecl ν → σ}
    (h : ∀ c, c.classDecls.Sublist (Part.classes x) →
      ∀ s, (c.visit (.onlyClass hook)).run s = (g c, c.classDecls.foldl step s)) (s : σ) :
    (Part.visit hook x).run s = (Part.replace g x, (Part.classes x).foldl step s) := by
  obtain ⟨cs, fill, hf, rfl⟩ := hx
  rw [hf.visit hook cs rfl, hf.replace_fill rfl, hf.classes cs rfl, StateT.run_map,
    run_mapM cs (fun c hc => h c (hf.classDecls_sublist rfl hc)) s]
  rfl

end Layout

/-- **Induction on the nesting of classes**: to prove a property of a class, assume it of every class whose classes are
among those inside. -/
theorem ClassDecl.nested_induction {P : ClassDecl ν → Prop}
    (step : ∀ d, (∀ c, c.classDecls.Sublist (Part.classes d) → P c) → P d) (d : ClassDecl ν) : P d := by
  induction h : d.classDecls.length using Nat.strongRecOn generalizing d with
  | _ n ih =>
    refine step d fun c hc => ih c.classDecls.length ?_ c rfl
    have := hc.length_le
    rw [← h]
    exact Nat.lt_succ_of_le this

end Promotion
