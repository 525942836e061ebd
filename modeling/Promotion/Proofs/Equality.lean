import Promotion.Proofs.Drafting
import Promotion.Tree.Equal
/-!
# Equality of trees is equality of their text

Trees are compared by their symbols, and a symbol stands for one text.  So if the names of a tree are mapped by `f`, and
`g` takes back what `f` makes of a name, then mapping the names by `g` restores the tree (`Restored.hereditary`).
Looking a text up in the table takes back what resolving a symbol gave, and that is all that equality needs: two trees
of one table with the same text are restored from that text, hence they are the same.

The same lemma says that names interned later leave the text of a tree alone: resolving in the larger table takes back
what looking up in the smaller one gives.
-/
namespace Promotion

variable {ν μ ε δ : Type} {f : ν → Except ε μ} {g : μ → Except δ ν}

/-! ## Names taken back -/

/-- What `f` makes of the names of `x`, `g` takes back. -/
def Restored (A : Type → Type) [∀ ν, Part ν (A ν)] [Syntax A] (f : ν → Except ε μ) (g : μ → Except δ ν) (x : A ν) :
    Prop :=
  ∀ x', Syntax.mapNames f x = .ok x' → Syntax.mapNames g x' = .ok x

theorem Ident.mapNames_of_restored (hg : ∀ y y', f y = .ok y' → g y' = .ok y) {id : Ident ν} {id' : Ident μ}
    (h : id.mapNames f = .ok id') : id'.mapNames g = .ok id := by
  obtain ⟨hn, hs⟩ := Ident.mapNames_eq_ok_iff.1 h
  exact Ident.mapNames_eq_ok_iff.2 ⟨hg _ _ hn, hs.symm⟩

theorem ExportName.mapNames_of_restored (hg : ∀ y y', f y = .ok y' → g y' = .ok y) {n : ExportName ν}
    {n' : ExportName μ} (h : n.mapNames f = .ok n') : n'.mapNames g = .ok n := by
  obtain ⟨id, a⟩ := n
  obtain ⟨id', hid, h⟩ := bind_eq_ok_iff.1 h
  obtain ⟨a', ha, h⟩ := bind_eq_ok_iff.1 h
  obtain rfl := Except.ok.inj h
  have ha' : Ident.mapNamesOpt g a' = .ok a := by
    cases a with
    | none =>
      obtain rfl := Except.ok.inj ha
      rfl
    | some a =>
      obtain ⟨b, hb, rfl⟩ := map_eq_ok_iff.1 ((map_eq_pure_bind some _).trans ha)
      exact bind_eq_ok_iff.2 ⟨a, Ident.mapNames_of_restored hg hb, rfl⟩
  exact bind_eq_ok_iff.2 ⟨id, Ident.mapNames_of_restored hg hid, bind_eq_ok_iff.2 ⟨a, ha', rfl⟩⟩

/-- A constructor around restored parts. -/
theorem Restored.map {A B : Type → Type} [∀ ν, Part ν (A ν)] [∀ ν, Part ν (B ν)] [Syntax A] [Syntax B]
    {k : ∀ ν, A ν → B ν} {x : A ν} (hf : Syntax.mapNames f (k ν x) = k μ <$> Syntax.mapNames f x)
    (hg : ∀ x' : A μ, Syntax.mapNames g (k μ x') = k ν <$> Syntax.mapNames g x') (hx : Restored A f g x) :
    Restored B f g (k ν x) := by
  intro z hz
  rw [hf] at hz
  obtain ⟨x', hx', rfl⟩ := map_eq_ok_iff.1 hz
  rw [hg, hx x' hx']
  rfl

/-- **Every tree is restored if its names are.** -/
theorem Restored.hereditary (hg : ∀ y y', f y = .ok y' → g y' = .ok y) :
    Hereditary fun A [∀ ν, Part ν (A ν)] [Syntax A] (x : A ν) => Restored A f g x where
  noParts _ _ := rfl
  ident id _ h := Ident.mapNames_of_restored hg h
  str y s z h := by
    obtain ⟨y', hy, rfl⟩ := map_eq_ok_iff.1 ((map_eq_pure_bind (Expr.str · s) _).trans h)
    exact bind_eq_ok_iff.2 ⟨y, hg y y' hy, rfl⟩
  exportNames ns s z h := by
    obtain ⟨ns', hn, rfl⟩ := map_eq_ok_iff.1 ((map_eq_pure_bind (Stmt.exportNames · s) _).trans h)
    have hr : List.Forall₂ (Yields (ExportName.mapNames g)) ns' ns :=
      (mapM_eq_ok_iff.1 hn).flip.imp fun _ _ => ExportName.mapNames_of_restored hg
    exact bind_eq_ok_iff.2 ⟨ns, mapM_eq_ok_iff.2 hr, rfl⟩
  classDef d hd := .map (k := fun _ d => Stmt.classDef d) (map_eq_pure_bind Stmt.classDef (d.mapNames f)).symm
    (fun d' => (map_eq_pure_bind Stmt.classDef (d'.mapNames g)).symm) hd
  prod := by
    intro A B _ _ _ _ x y hx hy z hz
    obtain ⟨x', hx', hz⟩ := bind_eq_ok_iff.1 hz
    obtain ⟨y', hy', hz⟩ := bind_eq_ok_iff.1 hz
    obtain rfl := Except.ok.inj hz
    exact bind_eq_ok_iff.2 ⟨x, hx x' hx', bind_eq_ok_iff.2 ⟨y, hy y' hy', rfl⟩⟩
  plain hk _ hx := .map (hk.mapNames f _) (hk.mapNames g) hx
  headed hk _ hx := .map (hk.mapNames f _) (hk.mapNames g) hx

/-! ## Symbols and text -/

namespace Stmt

variable {t t' : NameTable} {a b : Stmt Symbol} {A B : Stmt String}

/-- Looking the text of a tree up gives the tree back. -/
theorem mapNames_number (h : a.mapNames t.resolve = .ok A) : A.mapNames t.number = .ok a :=
  a.hereditary (Restored.hereditary fun _ _ hy => NameTable.number_eq_ok_iff.2 hy) A h

/-- A tree has the same text in every table that extends its own. -/
theorem mapNames_resolve_of_extends (ht : t'.Extends t) (h : a.mapNames t.resolve = .ok A) :
    a.mapNames t'.resolve = .ok A :=
  A.hereditary (Restored.hereditary fun _ _ hy => ht _ _ (NameTable.number_eq_ok_iff.1 hy)) a (mapNames_number h)

/-- Trees of one table are equal if and only if their texts are. -/
theorem beq_iff_of_mapNames (ha : a.mapNames t.resolve = .ok A) (hb : b.mapNames t.resolve = .ok B) :
    a.beq b = true ↔ A = B := by
  rw [Stmt.beq_iff_eq]
  constructor
  · rintro rfl
    exact Except.ok.inj (ha.symm.trans hb)
  · rintro rfl
    exact Except.ok.inj ((mapNames_number ha).symm.trans (mapNames_number hb))

theorem exists_mapNames (h : ∀ y ∈ Node.namesIn a.nodes, t.Knows y) : ∃ A : Stmt String, a.mapNames t.resolve = .ok A :=
  (a.hereditary (Mappable.hereditary t.resolve)).2 (List.forall_mem_flatMap.1 h)

/-- **Equality of trees is equality of their text.**  Two statements with symbols of one table have a text each, and
they are equal, spans included, if and only if these texts are.  Names interned afterwards change neither text, and
whatever was interned before or in between: trees of any other table with the same two texts compare the same. -/
theorem beq_iff_text_eq (ha : ∀ y ∈ Node.namesIn a.nodes, t.Knows y) (hb : ∀ y ∈ Node.namesIn b.nodes, t.Knows y) :
    ∃ A B : Stmt String,
      a.mapNames t.resolve = .ok A ∧ b.mapNames t.resolve = .ok B ∧ (a.beq b = true ↔ A = B) ∧
      (∀ ns t', t.internAll ns = some t' → a.mapNames t'.resolve = .ok A ∧ b.mapNames t'.resolve = .ok B) ∧
      ∀ (t' : NameTable) (a' b' : Stmt Symbol),
        a'.mapNames t'.resolve = .ok A → b'.mapNames t'.resolve = .ok B → a'.beq b' = a.beq b := by
  obtain ⟨A, hA⟩ := exists_mapNames ha
  obtain ⟨B, hB⟩ := exists_mapNames hb
  refine ⟨A, B, hA, hB, beq_iff_of_mapNames hA hB, fun ns t' h => ?_, fun t' a' b' hA' hB' => ?_⟩
  · have ht := NameTable.extends_of_internAll h
    exact ⟨mapNames_resolve_of_extends ht hA, mapNames_resolve_of_extends ht hB⟩
  · rw [Bool.eq_iff_iff, beq_iff_of_mapNames hA' hB', beq_iff_of_mapNames hA hB]

/-- Two statements that differ in one symbol, at every place where a name stands. -/
theorem beq_iff_text_eq_ofName :
    let t := NameTable.ofMarkerNames
    let a : Stmt Symbol := .block ⟨(Module.ofName default []).statements, default⟩
    let b : Stmt Symbol := .block ⟨(Module.ofName ⟨2, by decide⟩ []).statements, default⟩
    (∀ y ∈ Node.namesIn a.nodes, t.Knows y) ∧ (∀ y ∈ Node.namesIn b.nodes, t.Knows y) ∧ a.beq b = false ∧
    ∃ A B : Stmt String,
      a.mapNames t.resolve = .ok A ∧ b.mapNames t.resolve = .ok B ∧ (a.beq b = true ↔ A = B) ∧
      (∀ ns t', t.internAll ns = some t' → a.mapNames t'.resolve = .ok A ∧ b.mapNames t'.resolve = .ok B) ∧
      ∀ (t' : NameTable) (a' b' : Stmt Symbol),
        a'.mapNames t'.resolve = .ok A → b'.mapNames t'.resolve = .ok B → a'.beq b' = a.beq b := by
  intro t a b
  have ha : ∀ y ∈ Node.namesIn a.nodes, t.Knows y := by
    have hn : ∀ y ∈ Node.namesIn a.nodes, y = default := by decide
    intro y hy
    exact ⟨paramMarkerName, hn y hy ▸ rfl⟩
  have hb : ∀ y ∈ Node.namesIn b.nodes, t.Knows y := by
    have hn : ∀ y ∈ Node.namesIn b.nodes, y = ⟨2, by decide⟩ := by decide
    intro y hy
    exact ⟨classMarkerName, hn y hy ▸ rfl⟩
  exact ⟨ha, hb, rfl, beq_iff_text_eq ha hb⟩

end Stmt

end Promotion
