import Promotion.Proofs.DraftedNodes
/-!
# Names and symbols are two sides of one numbering

A sequence of calls of `intern` comes down to the table that it leaves: each call returns the symbol that its name has
in that last table (`run_mapM_name`), because a symbol keeps its name when the table grows.  The last table numbers the
different names of the sequence 1, 2, 3, … in the order in which they first came (`find?_iff_of_names`), and everything
else about the calls is read off this numbering: `Numbered` says it of a sequence from the empty table, and
`numbered_of_interning` says that every sequence for which there are enough numbers is of this kind, and that the calls
behind it leave it alone.
-/
namespace Promotion.NameTable

variable {t t' : NameTable} {ns ms : List String}

/-! ## Calls and the table that they leave -/

/-- **Each call returns the symbol that its name has at the end.** -/
theorem run_mapM_name (t : NameTable) (ns : List String) :
    (ns.mapM Interning.name).run t = (t.internAll ns).map fun t' => (ns.map t'.symbolOf, t') := by
  induction ns generalizing t with
  | nil => rfl
  | cons n ns ih =>
    have hm : ((n :: ns).mapM Interning.name).run t =
        (t.intern n).bind fun r => ((ns.mapM Interning.name).run r.2).bind fun q => some (r.1 :: q.1, q.2) := by
      rw [List.mapM_cons]
      rfl
    rw [hm, internAll_cons]
    cases h : t.intern n with
    | none => rfl
    | some r =>
      obtain ⟨y, t₁⟩ := r
      simp only [Option.bind_some, ih]
      cases h' : t₁.internAll ns with
      | none => rfl
      | some t₂ =>
        have hy : t₂.symbolOf n = y := symbolOf_eq (extends_of_internAll h' y n (resolve_of_intern h))
        simp [hy]

/-- Names that are known are looked up, and nothing changes. -/
theorem internAll_of_known (h : ∀ n ∈ ms, ∃ y, t.find? n = some y) : t.internAll ms = some t := by
  induction ms with
  | nil => rfl
  | cons n ms ih =>
    obtain ⟨hn, hms⟩ := List.forall_mem_cons.1 h
    obtain ⟨y, hy⟩ := hn
    exact internAll_cons_eq_some_iff.2 ⟨y, t, intern_of_find?_some hy, ih hms⟩

/-- A symbol stands for one name, so different names have different symbols. -/
theorem symbolOf_inj (h : t.internAll ns = some t') {a b : String} (ha : a ∈ ns) (hb : b ∈ ns) :
    t'.symbolOf a = t'.symbolOf b ↔ a = b := by
  constructor
  · intro hab
    have hr := resolve_symbolOf h ha
    rw [hab, resolve_symbolOf h hb] at hr
    exact (Except.ok.inj hr).symm
  · rintro rfl
    rfl

/-- The place of a name among the names of the table is its number, counted from one. -/
theorem find?_iff_of_names {ks : List String} (ht : t.names.toList = ks) (n : String) (y : Symbol) :
    t.find? n = some y ↔ ∃ i, ks[i]? = some n ∧ y.number.toNat = i + 1 := by
  have hk : t.find? n = some y ↔ ks[y.index]? = some n := by
    rw [← ht, Array.getElem?_toList]
    exact t.numbers_eq n y
  have hy := y.index_add_one
  rw [hk]
  constructor
  · intro h
    exact ⟨y.index, h, hy.symm⟩
  · rintro ⟨i, hi, hn⟩
    have hyi : y.index = i := by omega
    rwa [hyi]

theorem find?_eq_of_extends (ht : t'.Extends t) {n : String} {y : Symbol} (h : t.find? n = some y) :
    t'.find? n = some y := by
  rw [← resolve_eq_ok_iff] at h ⊢
  exact ht y n h

theorem resolve_eq_of_extends (ht : t'.Extends t) {y : Symbol} (h : t.Knows y) : t'.resolve y = t.resolve y := by
  obtain ⟨n, hn⟩ := h
  rw [hn, ht y n hn]

/-! ## Sequences from the empty table -/

theorem names_empty : empty.names.toList = ([] : List String).eraseDups := rfl

/-- What there is to say when the calls of `intern` with the names `ns`, from the empty table, returned the symbols `ys`
and left the table `t`. -/
structure Numbered (ns : List String) (ys : List Symbol) (t : NameTable) : Prop where
  /-- Looking up and resolving are inverse to each other. -/
  find?_iff_resolve (n : String) (y : Symbol) : t.find? n = some y ↔ t.resolve y = .ok n
  /-- There are as many names as different ones were given. -/
  size : t.size = ns.eraseDups.length
  /-- The symbols in use are 1, 2, … up to the number of names. -/
  knows_iff_le (y : Symbol) : t.Knows y ↔ y.number.toNat ≤ t.size
  /-- The numbers follow the order in which the names first came. -/
  find?_iff_getElem? (n : String) (y : Symbol) :
    t.find? n = some y ↔ ∃ i, ns.eraseDups[i]? = some n ∧ y.number.toNat = i + 1
  /-- Each call returned the symbol of its name. -/
  returned : List.Forall₂ (fun n y => t.resolve y = .ok n) ns ys
  /-- Two calls returned the same symbol exactly if they were given the same name. -/
  returned_eq_iff (i j : Nat) : ys[i]? = ys[j]? ↔ ns[i]? = ns[j]?

theorem numbered_of_internAll (h : empty.internAll ns = some t) : Numbered ns (ns.map t.symbolOf) t := by
  have hn : t.names.toList = ns.eraseDups := names_internAll names_empty h
  have hr : ∀ n ∈ ns, t.resolve (t.symbolOf n) = .ok n := fun n hn => resolve_symbolOf h hn
  refine ⟨fun n y => (t.resolve_eq_ok_iff y n).symm, ?_, ?_, find?_iff_of_names hn, ?_, ?_⟩
  · rw [← hn, Array.length_toList, size]
  · intro y
    have hy := y.index_add_one
    rw [knows_iff]
    omega
  · rw [List.forall₂_map_right_iff]
    exact List.forall₂_same.2 hr
  · intro i j
    rw [List.getElem?_map, List.getElem?_map]
    cases hi : ns[i]? with
    | none => cases ns[j]? <;> simp
    | some a =>
      cases hj : ns[j]? with
      | none => simp
      | some b => simp [symbolOf_inj h (List.mem_of_getElem? hi) (List.mem_of_getElem? hj)]

/-- **Names and symbols are in bijection, and stay so.**  A sequence of calls of `intern` from the empty table with
fewer than 2³² different names succeeds.  Looking up and resolving are then inverse to each other, the symbols in use
are the numbers from one to the count of different names, in the order in which these first came, and two calls returned
the same symbol exactly if they were given the same name.  Calls that follow change neither what an earlier symbol
stands for nor which symbol an earlier name has, and if they bring no new name, they change nothing at all. -/
theorem numbered_of_interning (ns ms : List String) (h : (ns ++ ms).eraseDups.length < UInt32.size) :
    ∃ (ys zs : List Symbol) (t t' : NameTable),
      (ns.mapM Interning.name).run empty = some (ys, t) ∧ (ms.mapM Interning.name).run t = some (zs, t') ∧
      Numbered ns ys t ∧ Numbered (ns ++ ms) (ys ++ zs) t' ∧
      (∀ y, t.Knows y → t'.resolve y = t.resolve y) ∧ (∀ n ∈ ns, t'.find? n = t.find? n) ∧
      ((∀ m ∈ ms, m ∈ ns) → t' = t) := by
  obtain ⟨t', h'⟩ : ∃ t', empty.internAll (ns ++ ms) = some t' := (exists_internAll_iff names_empty).2 h
  have hb := h'
  rw [internAll_append] at hb
  obtain ⟨t, ht, hm⟩ := Option.bind_eq_some_iff.1 hb
  have he : t'.Extends t := extends_of_internAll hm
  have hk : ∀ n ∈ ns, ∃ y, t.find? n = some y := fun n hn =>
    ⟨t.symbolOf n, (t.resolve_eq_ok_iff _ n).1 (resolve_symbolOf ht hn)⟩
  have hs : ns.map t.symbolOf = ns.map t'.symbolOf :=
    List.map_congr_left fun n hn => symbolOf_eq_of_extends ht he hn
  refine ⟨ns.map t.symbolOf, ms.map t'.symbolOf, t, t', ?_, ?_, numbered_of_internAll ht, ?_, ?_, ?_, ?_⟩
  · rw [run_mapM_name, ht]
    rfl
  · rw [run_mapM_name, hm]
    rfl
  · rw [hs, ← List.map_append]
    exact numbered_of_internAll h'
  · exact fun y hy => resolve_eq_of_extends he hy
  · intro n hn
    obtain ⟨y, hy⟩ := hk n hn
    rw [hy, find?_eq_of_extends he hy]
  · intro hms
    rw [internAll_of_known fun m hm => hk m (hms m hm)] at hm
    exact (Option.some.inj hm).symm

/-- Three names, the first of them given again behind the second, and then a new one after a known one. -/
theorem numbered_of_interning_three :
    (["pp", "x", "pp"] ++ ["x", "y"]).eraseDups.length < UInt32.size ∧
    ∃ (ys zs : List Symbol) (t t' : NameTable),
      (["pp", "x", "pp"].mapM Interning.name).run empty = some (ys, t) ∧
      (["x", "y"].mapM Interning.name).run t = some (zs, t') ∧
      Numbered ["pp", "x", "pp"] ys t ∧ Numbered (["pp", "x", "pp"] ++ ["x", "y"]) (ys ++ zs) t' ∧
      (∀ y, t.Knows y → t'.resolve y = t.resolve y) ∧ (∀ n ∈ ["pp", "x", "pp"], t'.find? n = t.find? n) ∧
      ((∀ m ∈ ["x", "y"], m ∈ ["pp", "x", "pp"]) → t' = t) :=
  have h : (["pp", "x", "pp"] ++ ["x", "y"]).eraseDups.length < UInt32.size := by decide
  ⟨h, numbered_of_interning ["pp", "x", "pp"] ["x", "y"] h⟩

end Promotion.NameTable
