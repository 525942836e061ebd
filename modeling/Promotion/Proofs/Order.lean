import Mathlib.Data.List.Perm.Basic
import Mathlib.Tactic.Choose
import Promotion.Proofs.Run
/-!
# The order of promotion does not matter

A run promotes a class before the classes inside it.  `Module.promoteUp` goes through the same module in the opposite
order, and both come to the same module and to the same report on each class; only the order of the reports is another.

A bottom-up map meets each class with the classes inside it already replaced.  Still there is one list of the classes as
they stood at first that it goes along (`Part.UpOrder`), and this list holds the same classes as the listing in the
order of the walk.
-/
namespace Promotion

variable {ν : Type}

/-- A bottom-up map over `x` goes along `l`: where `f` does to a class what `g` does, and adds to the state what `step`
adds for the class as it stood at first, mapping `x` by `f` adds what `step` adds for the classes of `l`. -/
def Part.UpOrder {α : Type} [Part ν α] (x : α) (l : List (ClassDecl ν)) : Prop :=
  ∀ {σ : Type} {f : ClassDecl ν → StateM σ (ClassDecl ν)} {g : ClassDecl ν → ClassDecl ν} {step : σ → ClassDecl ν → σ},
    (∀ d s, (f (Part.mapUp g d)).run s = (d.mapUp g, step s d)) →
      ∀ s, (Part.mapClasses f x).run s = (Part.mapUp g x, l.foldl step s)

theorem ClassDecl.run_mapClasses {d : ClassDecl ν} {l : List (ClassDecl ν)} (hl : Part.UpOrder d l) {σ : Type}
    {f : ClassDecl ν → StateM σ (ClassDecl ν)} {g : ClassDecl ν → ClassDecl ν} {step : σ → ClassDecl ν → σ}
    (hf : ∀ d s, (f (Part.mapUp g d)).run s = (d.mapUp g, step s d)) (s : σ) :
    (d.mapClasses f).run s = (d.mapUp g, (l ++ [d]).foldl step s) := by
  have hd : (d.mapInside f).run s = (Part.mapUp g d, l.foldl step s) := hl hf s
  unfold ClassDecl.mapClasses
  rw [StateT.run_bind, hd, List.foldl_append]
  exact hf d _

theorem Layout.exists_upOrder {α : Type} [Part ν α] {x : α} (hx : Layout x)
    (h : ∀ c : ClassDecl ν, c.classDecls.Sublist (Part.classes x) → ∃ l, l.Perm (Part.classes c) ∧ Part.UpOrder c l) :
    ∃ l, l.Perm (Part.classes x) ∧ Part.UpOrder x l := by
  obtain ⟨cs, fill, hf, rfl⟩ := hx
  choose! w hw using h
  have hs : ∀ c ∈ cs, c.classDecls.Sublist (Part.classes (fill cs)) := fun c => hf.classDecls_sublist rfl
  -- behind the classes inside it comes the class itself
  refine ⟨cs.flatMap fun c => w c ++ [c], ?_, ?_⟩
  · rw [hf.classes cs rfl]
    refine List.Perm.flatMap_left cs fun c hc => ?_
    exact (List.perm_append_singleton c (w c)).trans ((hw c (hs c hc)).1.cons c)
  · intro σ f g step hfg s
    rw [hf.mapClasses f cs rfl, hf.mapUp_fill rfl, StateT.run_map,
      run_mapM cs (fun c hc => ClassDecl.run_mapClasses (hw c (hs c hc)).2 hfg) s]
    rfl

theorem ClassDecl.exists_upOrder (d : ClassDecl ν) : ∃ l, l.Perm (Part.classes d) ∧ Part.UpOrder d l := by
  induction d using ClassDecl.nested_induction with
  | step d ih => exact d.layout.exists_upOrder ih

theorem ClassDecl.mapUp_id (d : ClassDecl ν) : d.mapUp id = d := by
  induction d using ClassDecl.nested_induction with
  | step d ih => exact (d.layout.mapUp_eq_replace id).trans (d.layout.replace_eq_self ih)

/-- Notes a class and leaves it as it is. -/
def ClassDecl.note (d : ClassDecl ν) : StateM (Array (ClassDecl ν)) (ClassDecl ν) := do
  modify (·.push d)
  return d

/-- Promotes a class and notes the report on it. -/
def ClassDecl.promoteNoting [DecidableEq ν] (r : Rules ν) (d : ClassDecl ν) :
    StateM (Array (ClassReport ν)) (ClassDecl ν) := do
  let (d', report) := d.promote r
  modify (·.push report)
  return d'

namespace Module

/-- The class declarations of a module at any depth, each behind the classes inside it. -/
def classDeclsUp (p : Module ν) : List (ClassDecl ν) := ((p.mapClasses ClassDecl.note).run #[]).2.toList

/-- The module with all its classes promoted bottom-up, and the reports on them as they come in. -/
def promoteUp [DecidableEq ν] (r : Rules ν) (p : Module ν) : Module ν × List (ClassReport ν) :=
  let (p', reports) := (p.mapClasses (ClassDecl.promoteNoting r)).run #[]
  (p', reports.toList)

theorem upOrder_classDeclsUp (p : Module ν) :
    p.classDeclsUp.Perm p.classDecls ∧ Part.UpOrder p p.classDeclsUp := by
  obtain ⟨l, hp, hl⟩ := p.layout.exists_upOrder fun c _ => c.exists_upOrder
  have hn : ∀ (d : ClassDecl ν) (s : Array (ClassDecl ν)),
      (ClassDecl.note (Part.mapUp id d)).run s = (d.mapUp id, s.push d) := fun d s => by
    have hd : Part.mapUp id d = d := d.mapUp_id
    rw [hd, d.mapUp_id]
    rfl
  have hr : (p.mapClasses ClassDecl.note).run #[] = (Part.mapUp id p, l.foldl Array.push #[]) := hl hn #[]
  have hu : p.classDeclsUp = l := by
    unfold classDeclsUp
    rw [hr]
    simp
  rw [hu]
  exact ⟨hp, hl⟩

theorem promoteUp_eq [DecidableEq ν] (r : Rules ν) (p : Module ν) :
    p.promoteUp r = (p.promoteAll r, p.classDeclsUp.map (ClassDecl.report r)) := by
  have hs : ∀ (d : ClassDecl ν) (s : Array (ClassReport ν)),
      (ClassDecl.promoteNoting r (Part.mapUp (fun d => (d.promote r).1) d)).run s =
        (d.promoteAll r, s.push (d.report r)) := fun d s => by
    have hd := ClassDecl.report_replace (ClassDecl.promoteAll r) r d
    unfold ClassDecl.promoteAll at hd
    rw [← d.layout.mapUp_eq_replace] at hd
    -- the class is met with its inner classes promoted, and this does not show in the report
    exact congrArg (fun c => (d.promoteAll r, s.push c)) hd
  have h : (p.mapClasses (ClassDecl.promoteNoting r)).run #[] =
      (p.promoteAll r, p.classDeclsUp.foldl (fun s d => s.push (d.report r)) #[]) := p.upOrder_classDeclsUp.2 hs #[]
  unfold promoteUp
  rw [h, List.foldl_push_eq_append, Array.empty_append]

/-- **The order of promotion does not matter**: promoting every class before the classes inside it and promoting it
after them leave the same module, and the report on a class is in both orders the one on the class as it stood at
first. -/
theorem promote_eq_promoteUp [DecidableEq ν] (r : Rules ν) (file : String) (p : Module ν) :
    (p.promote r file).1 = (p.promoteUp r).1 ∧
    (p.promoteClasses r).2 = p.classDecls.map (fun d => (d.promote r).2) ∧
    (p.promoteUp r).2 = p.classDeclsUp.map (fun d => (d.promote r).2) ∧
    p.classDeclsUp.Perm p.classDecls ∧ (p.promoteUp r).2.Perm (p.promoteClasses r).2 := by
  have hp := p.upOrder_classDeclsUp.1
  rw [fst_promote, promoteClasses_eq, promoteUp_eq]
  exact ⟨rfl, rfl, rfl, hp, hp.map _⟩

end Module

end Promotion
