import Promotion.Class.Marker
/-!
# Names in the order of their first interning

The laws of a table by itself.  Looking up and resolving are inverse to each other (`resolve_eq_ok_iff`), and the known
symbols are those of the places that are taken (`knows_iff`).

Interning a name either finds it or adds it behind the names that are there (`intern_cases`), so a table only ever grows
(`Extends`), and after any sequence of names it holds each of them once, in the order in which they first came
(`names_internAll`).  The sequence fails exactly if it has more different names than there are numbers
(`exists_internAll_iff`).
-/
namespace Promotion.NameTable

variable {t t' t'' : NameTable} {n : String} {y z : Symbol} {ns : List String}

/-! ## What a table holds -/

theorem resolve_eq_ok_iff (t : NameTable) (y : Symbol) (s : String) :
    t.resolve y = .ok s ↔ t.find? s = some y := by
  unfold resolve find?
  rw [t.numbers_eq]
  cases t.names[y.index]? <;> simp

/-- The symbol stands for one of the names of the table. -/
def Knows (t : NameTable) (y : Symbol) : Prop := ∃ n, t.resolve y = .ok n

theorem knows_iff : t.Knows y ↔ y.index < t.size := by
  unfold Knows resolve size
  constructor
  · rintro ⟨n, h⟩
    cases hy : t.names[y.index]? with
    | none =>
      rw [hy] at h
      cases h
    | some m => exact (Array.getElem?_eq_some_iff.1 hy).1
  · intro h
    rw [Array.getElem?_eq_getElem h]
    exact ⟨_, rfl⟩

/-- Every place of a table has a number. -/
theorem exists_index_eq {i : Nat} (hi : i < t.size) : ∃ y : Symbol, y.index = i := by
  have hs : i + 1 < UInt32.size := Nat.lt_of_le_of_lt hi t.size_lt
  have hn : (i + 1).toUInt32.toNat = i + 1 := Nat.mod_eq_of_lt hs
  refine ⟨⟨(i + 1).toUInt32, ?_⟩, ?_⟩
  · rw [UInt32.lt_iff_toNat_lt, hn]
    exact Nat.succ_pos i
  · rw [Symbol.index, hn, Nat.add_sub_cancel]

theorem mem_names_iff : n ∈ t.names.toList ↔ ∃ y, t.find? n = some y := by
  rw [Array.mem_toList_iff, Array.mem_iff_getElem?]
  constructor
  · rintro ⟨i, hi⟩
    obtain ⟨y, rfl⟩ := exists_index_eq (Array.getElem?_eq_some_iff.1 hi).1
    exact ⟨y, (t.numbers_eq n y).2 hi⟩
  · rintro ⟨y, hy⟩
    exact ⟨y.index, (t.numbers_eq n y).1 hy⟩

theorem notMem_names_iff : n ∉ t.names.toList ↔ t.find? n = none := by
  rw [mem_names_iff, not_exists, Option.eq_none_iff_forall_ne_some]

theorem nextNumber_pos_iff : 0 < t.nextNumber ↔ t.size + 1 < UInt32.size := by
  constructor
  · intro h
    have hlt := t.nextNumber.toNat_lt_size
    rw [t.toNat_nextNumber h] at hlt
    exact hlt
  · intro h
    have hn : t.nextNumber.toNat = (t.size + 1) % UInt32.size := by
      simp [nextNumber, size, UInt32.toNat_add, UInt32.size]
    rw [UInt32.lt_iff_toNat_lt, hn, Nat.mod_eq_of_lt h]
    exact Nat.succ_pos _

/-- The symbol of a name, as a step of `mapNames` that takes text back to symbols. -/
def number (t : NameTable) (n : String) : Except Unit Symbol :=
  match t.find? n with
  | some y => .ok y
  | none => .error ()

theorem number_eq_ok_iff : t.number n = .ok y ↔ t.resolve y = .ok n := by
  rw [t.resolve_eq_ok_iff, number]
  cases t.find? n <;> simp

/-! ## Tables that grow -/

theorem intern_of_find?_some (h : t.find? n = some y) : t.intern n = some (y, t) := by
  unfold intern
  split
  · rename_i z hz
    rw [Option.some.inj (hz.symm.trans h)]
  · rename_i hn
    cases hn.symm.trans h

theorem intern_of_find?_none (h : t.find? n = none) (hp : 0 < t.nextNumber) :
    t.intern n = some (⟨t.nextNumber, hp⟩, t.push n h hp) := by
  unfold intern
  split
  · rename_i z hz
    cases hz.symm.trans h
  · rw [dif_pos hp]

theorem intern_of_full (h : t.find? n = none) (hp : ¬ 0 < t.nextNumber) : t.intern n = none := by
  unfold intern
  split
  · rename_i z hz
    cases hz.symm.trans h
  · rw [dif_neg hp]

/-- Interning finds the name or adds it. -/
theorem intern_cases (h : t.intern n = some (y, t')) :
    (t.find? n = some y ∧ t' = t) ∨ ∃ hn hp, y = ⟨t.nextNumber, hp⟩ ∧ t' = t.push n hn hp := by
  unfold intern at h
  split at h
  · rename_i z hz
    obtain ⟨rfl, rfl⟩ := Prod.mk.inj (Option.some.inj h)
    exact .inl ⟨hz, rfl⟩
  · rename_i hn
    split at h
    · rename_i hp
      obtain ⟨rfl, rfl⟩ := Prod.mk.inj (Option.some.inj h)
      exact .inr ⟨hn, hp, rfl, rfl⟩
    · cases h

/-- `t'` knows what `t` knows, under the same symbols. -/
def Extends (t' t : NameTable) : Prop := ∀ y n, t.resolve y = .ok n → t'.resolve y = .ok n

theorem Extends.refl (t : NameTable) : t.Extends t := fun _ _ h => h

theorem Extends.trans (h' : t''.Extends t') (h : t'.Extends t) : t''.Extends t := fun y n hy => h' y n (h y n hy)

theorem resolve_of_intern (h : t.intern n = some (y, t')) : t'.resolve y = .ok n := by
  rw [resolve_eq_ok_iff]
  obtain ⟨hy, rfl⟩ | ⟨hn, hp, rfl, rfl⟩ := intern_cases h
  · exact hy
  · exact Std.HashMap.getElem?_insert_self

theorem extends_of_intern (h : t.intern n = some (y, t')) : t'.Extends t := by
  intro z m hz
  obtain ⟨-, rfl⟩ | ⟨hn, hp, rfl, rfl⟩ := intern_cases h
  · exact hz
  · rw [resolve_eq_ok_iff] at hz ⊢
    -- the name that was added is not `m`, which had a number already
    have hm : n ≠ m := by
      rintro rfl
      cases hn.symm.trans hz
    have hi : (t.push n hn hp).find? m = t.find? m := by
      simp [find?, push, Std.HashMap.getElem?_insert, hm]
    rw [hi, hz]

theorem knows_of_intern (h : t.intern n = some (y, t')) : t'.Knows y := ⟨n, resolve_of_intern h⟩

/-- Interning a name keeps those that are there. -/
theorem Knows.of_intern (hz : t.Knows z) (h : t.intern n = some (y, t')) : t'.Knows z := by
  obtain ⟨m, hm⟩ := hz
  exact ⟨m, extends_of_intern h z m hm⟩

theorem internAll_cons (t : NameTable) (n : String) (ns : List String) :
    t.internAll (n :: ns) = (t.intern n).bind fun r => r.2.internAll ns := rfl

theorem internAll_cons_eq_some_iff : t.internAll (n :: ns) = some t'' ↔
    ∃ y t', t.intern n = some (y, t') ∧ t'.internAll ns = some t'' := by
  rw [internAll_cons, Option.bind_eq_some_iff]
  exact Prod.exists

theorem internAll_append (t : NameTable) (ns ms : List String) :
    t.internAll (ns ++ ms) = (t.internAll ns).bind fun t' => t'.internAll ms := by
  induction ns generalizing t with
  | nil => rfl
  | cons n ns ih =>
    rw [List.cons_append, internAll_cons, internAll_cons, Option.bind_assoc]
    exact congrArg _ (funext fun r => ih r.2)

theorem extends_of_internAll (h : t.internAll ns = some t') : t'.Extends t := by
  induction ns generalizing t with
  | nil =>
    obtain rfl := Option.some.inj h
    exact .refl t
  | cons n ns ih =>
    obtain ⟨y, t₁, h₁, h⟩ := internAll_cons_eq_some_iff.1 h
    exact (ih h).trans (extends_of_intern h₁)

/-! ## The names of a sequence -/

theorem eraseDups_append_singleton (ms : List String) (n : String) :
    (ms ++ [n]).eraseDups = ms.eraseDups ++ if n ∈ ms then [] else [n] := by
  rw [List.eraseDups_append]
  by_cases hn : n ∈ ms
  · simp [List.removeAll, hn]
  · simp [List.removeAll, hn, List.eraseDups_cons]

theorem eraseDups_of_nodup {ns : List String} (h : ns.Nodup) : ns.eraseDups = ns := by
  induction ns with
  | nil => rfl
  | cons n ns ih =>
    obtain ⟨hn, hns⟩ := List.nodup_cons.1 h
    have hf : ns.filter (fun m => !m == n) = ns := by
      rw [List.filter_eq_self]
      intro m hm
      have hne : m ≠ n := fun he => hn (he ▸ hm)
      simp [hne]
    rw [List.eraseDups_cons, hf, ih hns]

section Names

variable {ms : List String} (ht : t.names.toList = ms.eraseDups)

include ht

theorem names_intern (h : t.intern n = some (y, t')) : t'.names.toList = (ms ++ [n]).eraseDups := by
  have hm : (∃ y, t.find? n = some y) ↔ n ∈ ms := by rw [← mem_names_iff, ht, List.mem_eraseDups]
  rw [eraseDups_append_singleton]
  obtain ⟨hy, rfl⟩ | ⟨hn, hp, rfl, rfl⟩ := intern_cases h
  · rw [if_pos (hm.1 ⟨y, hy⟩), List.append_nil, ht]
  · have hn' : n ∉ ms := by
      rw [← hm, hn]
      simp
    rw [if_neg hn', ← ht]
    exact Array.toList_push

/-- Interning fails exactly if the name is new and all numbers are taken. -/
theorem exists_intern_iff : (∃ r, t.intern n = some r) ↔ (ms ++ [n]).eraseDups.length < UInt32.size := by
  have hm : (∃ y, t.find? n = some y) ↔ n ∈ ms := by rw [← mem_names_iff, ht, List.mem_eraseDups]
  have hs : ms.eraseDups.length = t.size := by rw [← ht, Array.length_toList, size]
  rw [eraseDups_append_singleton, List.length_append, hs]
  cases hy : t.find? n with
  | some y =>
    have hn : n ∈ ms := hm.1 ⟨y, hy⟩
    have hlt : t.size < UInt32.size := t.size_lt
    simp [intern_of_find?_some hy, hn, hlt]
  | none =>
    have hn : n ∉ ms := by
      rw [← hm, hy]
      simp
    rw [if_neg hn, List.length_singleton, ← nextNumber_pos_iff]
    constructor
    · rintro ⟨⟨y, t'⟩, h⟩
      obtain ⟨hy', -⟩ | ⟨-, hp, -, -⟩ := intern_cases h
      · cases hy.symm.trans hy'
      · exact hp
    · intro hp
      exact ⟨_, intern_of_find?_none hy hp⟩

/-- **A sequence of names leaves each of them once, in the order in which they first came.** -/
theorem names_internAll (h : t.internAll ns = some t') : t'.names.toList = (ms ++ ns).eraseDups := by
  induction ns generalizing t ms with
  | nil =>
    obtain rfl := Option.some.inj h
    rw [List.append_nil, ht]
  | cons n ns ih =>
    obtain ⟨y, t₁, h₁, h⟩ := internAll_cons_eq_some_iff.1 h
    have hns := ih (names_intern ht h₁) h
    rwa [List.append_assoc, List.singleton_append] at hns

/-- **A sequence of names can be interned exactly if there is a number for each of them.** -/
theorem exists_internAll_iff :
    (∃ t', t.internAll ns = some t') ↔ (ms ++ ns).eraseDups.length < UInt32.size := by
  induction ns generalizing t ms with
  | nil =>
    have hlt : t.size < UInt32.size := t.size_lt
    rw [List.append_nil, ← ht, Array.length_toList]
    exact ⟨fun _ => hlt, fun _ => ⟨t, rfl⟩⟩
  | cons n ns ih =>
    have ha : ms ++ n :: ns = ms ++ [n] ++ ns := by rw [List.append_assoc, List.singleton_append]
    rw [ha]
    constructor
    · rintro ⟨t', h⟩
      obtain ⟨y, t₁, h₁, h⟩ := internAll_cons_eq_some_iff.1 h
      exact (ih (names_intern ht h₁)).1 ⟨t', h⟩
    · intro h
      have he : (ms ++ [n] ++ ns).eraseDups = (ms ++ [n]).eraseDups ++ (ns.removeAll (ms ++ [n])).eraseDups :=
        List.eraseDups_append
      have hle : (ms ++ [n]).eraseDups.length ≤ (ms ++ [n] ++ ns).eraseDups.length := by
        rw [he, List.length_append]
        exact Nat.le_add_right _ _
      obtain ⟨⟨y, t₁⟩, h₁⟩ := (exists_intern_iff ht).2 (Nat.lt_of_le_of_lt hle h)
      obtain ⟨t', h⟩ := (ih (names_intern ht h₁)).2 h
      exact ⟨t', internAll_cons_eq_some_iff.2 ⟨y, t₁, h₁, h⟩⟩

end Names

/-! ## Tables of one and of two names

One of them holds the two markers. -/

theorem find?_empty (a : String) : empty.find? a = none := by
  simp [find?, empty]

theorem nextNumber_empty_pos : 0 < empty.nextNumber := by
  decide

def ofName (a : String) : NameTable := empty.push a (find?_empty a) nextNumber_empty_pos

theorem find?_ofName {a b : String} (h : a ≠ b) : (ofName a).find? b = none := by
  simp [find?, ofName, push, empty, h]

theorem nextNumber_ofName_pos (a : String) : 0 < (ofName a).nextNumber := by
  have h : (ofName a).nextNumber = (ofName "").nextNumber := rfl
  rw [h]
  decide

def ofNames (a b : String) (h : a ≠ b) : NameTable := (ofName a).push b (find?_ofName h) (nextNumber_ofName_pos a)

theorem paramMarkerName_ne : paramMarkerName ≠ classMarkerName := by
  decide

def ofMarkerNames : NameTable := ofNames paramMarkerName classMarkerName paramMarkerName_ne

theorem markers_ofMarkerNames : ofMarkerNames.markers = ⟨some ⟨2, by decide⟩, some default⟩ := by
  have hc : ofMarkerNames.find? classMarkerName = some ⟨2, by decide⟩ := (resolve_eq_ok_iff _ _ _).1 rfl
  have hp : ofMarkerNames.find? paramMarkerName = some default := (resolve_eq_ok_iff _ _ _).1 rfl
  rw [markers, hc, hp]

end Promotion.NameTable
