import Promotion.Proofs.Numbering
/-!
# Markers that were looked up before

The names of the markers are looked up once.  A table may grow afterwards, and a marker that it did not know may become
known, so that the test for it turns from one that nothing passes into a comparison with a symbol.  On nodes that were
there before the two tests agree: a symbol that the old table knows keeps its name in the new one
(`NameTable.find?_iff_of_extends`), so the symbol that a name gets later is none of theirs.
-/
namespace Promotion

/-! ## Names of decorators -/

section Names

variable {ν : Type} {e : Decorator ν} {y : ν}

namespace Decorator

theorem mem_names_of_bareName (h : e.bareName = some y) : y ∈ Node.namesIn e.nodes := by
  obtain ⟨x, s⟩ := e
  cases x with
  | ident id =>
    obtain rfl := Option.some.inj h
    exact List.mem_cons_self
  | _ => cases h

theorem mem_names_nodesAll {es : List (Decorator ν)} (he : e ∈ es) (hy : y ∈ Node.namesIn e.nodes) :
    y ∈ Node.namesIn (Decorator.nodesAll es) := by
  rw [Decorator.nodesAll_eq, Node.namesIn_flatMap]
  exact List.mem_flatMap.2 ⟨e, he, hy⟩

end Decorator

theorem ClassDecl.mem_names_of_decorator {d : ClassDecl ν} (he : e ∈ d.decorators) (hy : y ∈ Node.namesIn e.nodes) :
    y ∈ Node.namesIn d.nodes := by
  obtain ⟨es, id, b, ms, s⟩ := d
  rw [ClassDecl.nodes, ClassDecl.inside, Node.namesIn_cons, Node.namesIn_append]
  exact List.mem_append_right _ (List.mem_append_left _ (Decorator.mem_names_nodesAll he hy))

theorem Param.mem_names_of_decorator {p : Param ν} (he : e ∈ p.decorators) (hy : y ∈ Node.namesIn e.nodes) :
    y ∈ Node.namesIn p.nodes := by
  obtain ⟨es, x, v, s⟩ := p
  rw [Param.nodes, List.append_assoc, Node.namesIn_cons, Node.namesIn_append]
  exact List.mem_append_right _ (List.mem_append_left _ (Decorator.mem_names_nodesAll he hy))

end Names

/-! ## Tests that agree -/

section Tables

variable {t t' : NameTable} (ht : t'.Extends t) {n : String}

include ht

theorem NameTable.find?_iff_of_extends {y : Symbol} (hy : t.Knows y) :
    t.find? n = some y ↔ t'.find? n = some y := by
  rw [← resolve_eq_ok_iff, ← resolve_eq_ok_iff, resolve_eq_of_extends ht hy]

namespace Decorator

theorem isMarker_of_extends {e : Decorator Symbol} (he : ∀ y ∈ Node.namesIn e.nodes, t.Knows y) :
    e.isMarker (t.find? n) = e.isMarker (t'.find? n) := by
  rw [Bool.eq_iff_iff, isMarker_iff, isMarker_iff]
  refine exists_congr fun y => and_congr_right fun hy => ?_
  exact NameTable.find?_iff_of_extends ht (he y (mem_names_of_bareName hy))

variable {es : List (Decorator Symbol)} (hes : ∀ e ∈ es, ∀ y ∈ Node.namesIn e.nodes, t.Knows y)

include hes

theorem find?_isMarker_of_extends : es.find? (·.isMarker (t.find? n)) = es.find? (·.isMarker (t'.find? n)) := by
  have hf : es.filter (·.isMarker (t.find? n)) = es.filter (·.isMarker (t'.find? n)) :=
    List.filter_congr fun e he => isMarker_of_extends ht (hes e he)
  rw [← List.head?_filter, hf, List.head?_filter]

theorem any_isMarker_of_extends : es.any (·.isMarker (t.find? n)) = es.any (·.isMarker (t'.find? n)) := by
  rw [← List.isSome_find?, find?_isMarker_of_extends ht hes, List.isSome_find?]

theorem strip_of_extends : strip (t.find? n) es = strip (t'.find? n) es :=
  List.filter_congr fun e he => congrArg (!·) (isMarker_of_extends ht (hes e he))

end Decorator

end Tables

/-- **Markers that were looked up before stay right.**  A class and a parameter with names that a table knows are tested
and stripped in the same way with the markers of this table as with those of every table that it grows to, whether the
markers were known before or not. -/
theorem NameTable.markers_of_internAll {t t' : NameTable} {ns : List String} (h : t.internAll ns = some t')
    {d : ClassDecl Symbol} {p : Param Symbol} (hd : ∀ y ∈ Node.namesIn d.nodes, t.Knows y)
    (hp : ∀ y ∈ Node.namesIn p.nodes, t.Knows y) :
    d.marker? t.markers = d.marker? t'.markers ∧ d.stripMarkers t.markers = d.stripMarkers t'.markers ∧
    Decorator.strippedCount t.markers.onClass d.decorators = Decorator.strippedCount t'.markers.onClass d.decorators ∧
    p.isMarked t.markers = p.isMarked t'.markers ∧ p.stripMarkers t.markers = p.stripMarkers t'.markers ∧
    Decorator.strippedCount t.markers.onParam p.decorators = Decorator.strippedCount t'.markers.onParam p.decorators := by
  have ht : t'.Extends t := extends_of_internAll h
  have hds : ∀ e ∈ d.decorators, ∀ y ∈ Node.namesIn e.nodes, t.Knows y := fun e he y hy =>
    hd y (ClassDecl.mem_names_of_decorator he hy)
  have hps : ∀ e ∈ p.decorators, ∀ y ∈ Node.namesIn e.nodes, t.Knows y := fun e he y hy =>
    hp y (Param.mem_names_of_decorator he hy)
  have hd' : Decorator.strip t.markers.onClass d.decorators = Decorator.strip t'.markers.onClass d.decorators :=
    Decorator.strip_of_extends ht hds
  have hp' : Decorator.strip t.markers.onParam p.decorators = Decorator.strip t'.markers.onParam p.decorators :=
    Decorator.strip_of_extends ht hps
  refine ⟨Decorator.find?_isMarker_of_extends ht hds, ?_, ?_, Decorator.any_isMarker_of_extends ht hps, ?_, ?_⟩
  · rw [ClassDecl.stripMarkers, hd', ClassDecl.stripMarkers]
  · rw [Decorator.strippedCount, hd', Decorator.strippedCount]
  · rw [Param.stripMarkers, hp', Param.stripMarkers]
  · rw [Decorator.strippedCount, hp', Decorator.strippedCount]

/-- A table that knows neither marker, and the table that it is after both were interned; a class and a parameter with
decorators in the old table, one of them a call. -/
theorem NameTable.markers_of_internAll_sealed :
    let e : Decorator Symbol := ⟨.ident ⟨default, default⟩, default⟩
    let called : Decorator Symbol := ⟨.call e.expr [] default, default⟩
    let d : ClassDecl Symbol := ⟨[called, e], ⟨default, default⟩, none, [], default⟩
    let p : Param Symbol := ⟨[e, called], .ident ⟨default, default⟩, none, default⟩
    ∃ t t' : NameTable, empty.internAll ["sealed"] = some t ∧ t.internAll [classMarkerName, paramMarkerName] = some t' ∧
      t.markers = ⟨none, none⟩ ∧ t'.markers = ⟨some ⟨2, by decide⟩, some ⟨3, by decide⟩⟩ ∧
      (∀ y ∈ Node.namesIn d.nodes, t.Knows y) ∧ (∀ y ∈ Node.namesIn p.nodes, t.Knows y) ∧
      d.marker? t.markers = d.marker? t'.markers ∧ d.stripMarkers t.markers = d.stripMarkers t'.markers ∧
      Decorator.strippedCount t.markers.onClass d.decorators =
        Decorator.strippedCount t'.markers.onClass d.decorators ∧
      p.isMarked t.markers = p.isMarked t'.markers ∧ p.stripMarkers t.markers = p.stripMarkers t'.markers ∧
      Decorator.strippedCount t.markers.onParam p.decorators =
        Decorator.strippedCount t'.markers.onParam p.decorators := by
  intro e called d p
  obtain ⟨t, ht⟩ : ∃ t, empty.internAll ["sealed"] = some t := (exists_internAll_iff names_empty).2 (by decide)
  have hn : t.names.toList = ["sealed"].eraseDups := names_internAll names_empty ht
  obtain ⟨t', ht'⟩ : ∃ t', t.internAll [classMarkerName, paramMarkerName] = some t' :=
    (exists_internAll_iff hn).2 (by decide)
  have hn' : t'.names.toList = ["sealed", classMarkerName, paramMarkerName].eraseDups := names_internAll hn ht'
  have hm : t.markers = ⟨none, none⟩ := by
    have hf : ∀ m, m ∉ ["sealed"].eraseDups → t.find? m = none := fun m hm => notMem_names_iff.1 (hn ▸ hm)
    rw [markers, hf _ (by decide), hf _ (by decide)]
  have hm' : t'.markers = ⟨some ⟨2, by decide⟩, some ⟨3, by decide⟩⟩ := by
    have hc : t'.find? classMarkerName = some ⟨2, by decide⟩ := (find?_iff_of_names hn' _ _).2 ⟨1, by decide, rfl⟩
    have hp : t'.find? paramMarkerName = some ⟨3, by decide⟩ := (find?_iff_of_names hn' _ _).2 ⟨2, by decide, rfl⟩
    rw [markers, hc, hp]
  have hk : t.Knows default := ⟨"sealed", (resolve_eq_ok_iff _ _ _).2 ((find?_iff_of_names hn _ _).2 ⟨0, rfl, rfl⟩)⟩
  have hd : ∀ y ∈ Node.namesIn d.nodes, t.Knows y := by
    have hy : ∀ y ∈ Node.namesIn d.nodes, y = default := by decide
    exact fun y hmem => hy y hmem ▸ hk
  have hp : ∀ y ∈ Node.namesIn p.nodes, t.Knows y := by
    have hy : ∀ y ∈ Node.namesIn p.nodes, y = default := by decide
    exact fun y hmem => hy y hmem ▸ hk
  exact ⟨t, t', ht, ht', hm, hm', hd, hp, markers_of_internAll ht' hd hp⟩

end Promotion
