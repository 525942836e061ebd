import Mathlib.Data.Fintype.EquivFin
import Promotion.Proofs.Numbering
/-!
# Running out of numbers

A table holds a column of names and a column of numbers, and its type says that the two agree.  `Columns` are the same
two columns with no law between them, and `Columns.intern` is one call as a sequence of steps on them: look the name up,
make a number out of the count of names cut to 32 bits, write the name, write the number.  A call that fails keeps what
its steps before the failure have written.

On the columns of a table this is `NameTable.intern` (`Columns.run_intern_columns`).  By induction every sequence of
calls from empty columns, calls that failed included, goes through columns of tables only (`Columns.run_calls`), and each
symbol that was returned on the way is the symbol of its name at the end.  So the count never reaches a value that 32
bits do not hold: behind the last number comes zero, and zero is refused before anything is written.
-/
namespace Promotion

/-! ## New names -/

namespace NameTable

variable {t : NameTable} {m n : String}

theorem find?_inj {y : Symbol} (hm : t.find? m = some y) (hn : t.find? n = some y) : m = n := by
  rw [← t.resolve_eq_ok_iff] at hm hn
  exact Except.ok.inj (hm.symm.trans hn)

/-- The next number belongs to no name yet. -/
theorem find?_ne_next (hp : 0 < t.nextNumber) : t.find? m ≠ some ⟨t.nextNumber, hp⟩ := by
  intro hm
  -- the number of a name is at most the count of names, and the next one is greater
  have hk : (⟨t.nextNumber, hp⟩ : Symbol).index < t.size := knows_iff.1 ⟨m, (t.resolve_eq_ok_iff _ m).2 hm⟩
  have hi : (⟨t.nextNumber, hp⟩ : Symbol).index + 1 = t.size + 1 :=
    (Symbol.index_add_one _).trans (t.toNat_nextNumber hp)
  omega

end NameTable

/-! ## Columns -/

/-- The number for the name at place `i`: the place cut to 32 bits, plus one, unless that comes to zero. -/
def Symbol.ofIndex? (i : Nat) : Option Symbol :=
  if h : 0 < i.toUInt32 + 1 then some ⟨i.toUInt32 + 1, h⟩ else none

/-- Names by number and numbers by name, whether they agree or not. -/
structure Columns where
  names : Array String
  numbers : Std.HashMap String Symbol

def NameTable.columns (t : NameTable) : Columns := ⟨t.names, t.numbers⟩

namespace Columns

def empty : Columns := ⟨#[], ∅⟩

/-- Writes a new name and its number.  If there is no number for it, the call ends before anything is written. -/
def add (n : String) : OptionT (StateM Columns) Symbol := do
  let some y := Symbol.ofIndex? (← get).names.size | failure
  modify fun c => { c with names := c.names.push n }
  modify fun c => { c with numbers := c.numbers.insert n y }
  return y

/-- One call, step by step. -/
def intern (n : String) : OptionT (StateM Columns) Symbol := do
  match (← get).numbers[n]? with
  | some y => return y
  | none => add n

/-- A sequence of calls with what each of them returned.  It goes on behind a call that failed. -/
def calls (ns : List String) : StateM Columns (List (Option Symbol)) := ns.mapM fun n => (intern n).run

/-! ## One call -/

theorem run_add (n : String) (c : Columns) : (add n).run.run c =
    (Symbol.ofIndex? c.names.size).elim (none, c) fun y => (some y, ⟨c.names.push n, c.numbers.insert n y⟩) := by
  have h : (add n).run.run c = (match Symbol.ofIndex? c.names.size with
    | some y => do
      modify fun c => { c with names := c.names.push n }
      modify fun c => { c with numbers := c.numbers.insert n y }
      return y
    | _ => failure : OptionT (StateM Columns) Symbol).run.run c := rfl
  rw [h]
  cases Symbol.ofIndex? c.names.size <;> rfl

theorem run_intern (n : String) (c : Columns) :
    (intern n).run.run c = c.numbers[n]?.elim ((add n).run.run c) fun y => (some y, c) := by
  have h : (intern n).run.run c = (match c.numbers[n]? with
    | some y => pure y
    | none => add n : OptionT (StateM Columns) Symbol).run.run c := rfl
  rw [h]
  cases c.numbers[n]? <;> rfl

/-- **On the columns of a table a call is `NameTable.intern`**, and a call that fails leaves the columns alone. -/
theorem run_intern_columns (t : NameTable) (n : String) : (intern n).run.run t.columns =
    (t.intern n).elim (none, t.columns) fun r => (some r.1, r.2.columns) := by
  rw [run_intern]
  cases h : t.find? n with
  | some y =>
    have hc : t.columns.numbers[n]? = some y := h
    rw [hc, NameTable.intern_of_find?_some h]
    rfl
  | none =>
    have hc : t.columns.numbers[n]? = none := h
    rw [hc, Option.elim_none, run_add]
    by_cases hp : 0 < t.nextNumber
    · have hy : Symbol.ofIndex? t.columns.names.size = some ⟨t.nextNumber, hp⟩ := dif_pos hp
      rw [hy, NameTable.intern_of_find?_none h hp]
      rfl
    · have hy : Symbol.ofIndex? t.columns.names.size = none := dif_neg hp
      rw [hy, NameTable.intern_of_full h hp]
      rfl

/-! ## Sequences of calls -/

theorem run_calls_cons (n : String) (ns : List String) {c c' : Columns} {r : Option Symbol}
    (h : (intern n).run.run c = (r, c')) :
    (calls (n :: ns)).run c = (r :: ((calls ns).run c').1, ((calls ns).run c').2) := by
  have hc : (calls (n :: ns)).run c =
      (((intern n).run.run c).1 :: ((calls ns).run ((intern n).run.run c).2).1,
        ((calls ns).run ((intern n).run.run c).2).2) := by
    rw [calls, List.mapM_cons]
    rfl
  rw [hc, h]

/-- The symbols that calls returned are those of their names. -/
abbrev Answers (t : NameTable) : List String → List (Option Symbol) → Prop :=
  List.Forall₂ fun n r => ∀ y, r = some y → t.find? n = some y

/-- **Calls on the columns of a table leave columns of a table**, which knows every name that has got a symbol.  If no
call fails it is the table that `internAll` leaves. -/
theorem run_calls (t : NameTable) (ns : List String) : ∃ ys t',
    (calls ns).run t.columns = (ys, t'.columns) ∧ t'.Extends t ∧ Answers t' ns ys ∧
    ∀ t'', t.internAll ns = some t'' → t'' = t' := by
  induction ns generalizing t with
  | nil => exact ⟨[], t, rfl, .refl t, .nil, fun t'' h => (Option.some.inj h).symm⟩
  | cons n ns ih =>
    have hs := run_intern_columns t n
    cases h : t.intern n with
    | none =>
      rw [h] at hs
      obtain ⟨ys, t', hr, he, ha, -⟩ := ih t
      refine ⟨none :: ys, t', ?_, he, .cons nofun ha, fun t'' ht => ?_⟩
      · rw [run_calls_cons n ns hs, hr]
      · obtain ⟨y, t₁, hy, -⟩ := NameTable.internAll_cons_eq_some_iff.1 ht
        cases h.symm.trans hy
    | some r =>
      obtain ⟨y, t₁⟩ := r
      rw [h] at hs
      obtain ⟨ys, t', hr, he, ha, hi⟩ := ih t₁
      have hy : t'.find? n = some y := (t'.resolve_eq_ok_iff y n).1 (he y n (NameTable.resolve_of_intern h))
      refine ⟨some y :: ys, t', ?_, he.trans (NameTable.extends_of_intern h), .cons ?_ ha, fun t'' ht => ?_⟩
      · rw [run_calls_cons n ns hs, hr]
      · rintro z ⟨⟩
        exact hy
      · obtain ⟨z, t₂, hz, ht⟩ := NameTable.internAll_cons_eq_some_iff.1 ht
        obtain ⟨rfl, rfl⟩ := Prod.mk.inj (Option.some.inj (h.symm.trans hz))
        exact hi t'' ht

/-! ## The last number -/

/-- What there is to say when calls with the names `ns` have returned `ys` and left the columns of `t`. -/
structure Limited (ns : List String) (ys : List (Option Symbol)) (t : NameTable) : Prop where
  /-- There are at most as many names as numbers. -/
  size_le : t.size ≤ UInt32.size - 1
  /-- A name that is known is found, however many there are. -/
  known (n : String) (y : Symbol) : t.find? n = some y → t.intern n = some (y, t)
  /-- As long as there are numbers left a new name gets the next one, which no name has. -/
  fresh (n : String) : t.find? n = none → t.size < UInt32.size - 1 →
    ∃ y t', t.intern n = some (y, t') ∧ y.number.toNat = t.size + 1 ∧ ∀ m, t.find? m ≠ some y
  /-- When there are none left a new name is refused, and nothing has been written. -/
  full (n : String) : t.find? n = none → t.size = UInt32.size - 1 →
    t.intern n = none ∧ (intern n).run.run t.columns = (none, t.columns)
  /-- A further call does with the columns what `intern` does with the table. -/
  call (n : String) :
    (intern n).run.run t.columns = (t.intern n).elim (none, t.columns) fun r => (some r.1, r.2.columns)
  /-- No two names have the same symbol. -/
  find?_inj (m n : String) (y : Symbol) : t.find? m = some y → t.find? n = some y → m = n
  /-- No two calls with different names have returned the same symbol. -/
  returned_inj (i j : Nat) (y : Symbol) : ys[i]? = some (some y) → ys[j]? = some (some y) → ns[i]? = ns[j]?

theorem Answers.exists_getElem? {t : NameTable} {ns : List String} {ys : List (Option Symbol)} (h : Answers t ns ys)
    {i : Nat} {y : Symbol} (hy : ys[i]? = some (some y)) : ∃ n, ns[i]? = some n ∧ t.find? n = some y := by
  induction h generalizing i with
  | nil => cases hy
  | @cons n r ns ys hr _ ih =>
    cases i with
    | zero => exact ⟨n, rfl, hr y (Option.some.inj hy)⟩
    | succ i => exact ih hy

theorem Answers.limited {t : NameTable} {ns : List String} {ys : List (Option Symbol)} (h : Answers t ns ys) :
    Limited ns ys t where
  size_le := Nat.le_sub_one_of_lt t.size_lt
  known _ _ := NameTable.intern_of_find?_some
  fresh n hn hs := by
    have hp : 0 < t.nextNumber := NameTable.nextNumber_pos_iff.2 (Nat.add_lt_of_lt_sub hs)
    exact ⟨⟨t.nextNumber, hp⟩, t.push n hn hp, NameTable.intern_of_find?_none hn hp, t.toNat_nextNumber hp,
      fun _ => NameTable.find?_ne_next hp⟩
  full n hn hs := by
    have hp : ¬ 0 < t.nextNumber := by
      rw [NameTable.nextNumber_pos_iff, hs]
      decide
    have hf : t.intern n = none := NameTable.intern_of_full hn hp
    refine ⟨hf, ?_⟩
    rw [run_intern_columns, hf]
    rfl
  call := run_intern_columns t
  find?_inj _ _ _ := NameTable.find?_inj
  returned_inj i j y hy hy' := by
    obtain ⟨m, hm, hmy⟩ := h.exists_getElem? hy
    obtain ⟨n, hn, hny⟩ := h.exists_getElem? hy'
    rw [hm, hn, NameTable.find?_inj hmy hny]

/-- There are sequences of names that use up the numbers, and then there is a name without one. -/
theorem exists_full : ∃ ns n t,
    NameTable.empty.internAll ns = some t ∧ t.size = UInt32.size - 1 ∧ t.find? n = none := by
  obtain ⟨s, hs⟩ := Infinite.exists_subset_card_eq String (UInt32.size - 1)
  obtain ⟨n, hn⟩ := Infinite.exists_notMem_finset s
  have hd : s.toList.eraseDups = s.toList := NameTable.eraseDups_of_nodup s.nodup_toList
  have hl : s.toList.length = UInt32.size - 1 := by rw [Finset.length_toList, hs]
  obtain ⟨t, ht⟩ : ∃ t, NameTable.empty.internAll s.toList = some t := by
    rw [NameTable.exists_internAll_iff NameTable.names_empty, List.nil_append, hd, hl]
    decide
  have htn : t.names.toList = s.toList := by
    rw [NameTable.names_internAll NameTable.names_empty ht, List.nil_append, hd]
  refine ⟨s.toList, n, t, ht, ?_, ?_⟩
  · rw [NameTable.size, ← Array.length_toList, htn, hl]
  · rwa [← NameTable.notMem_names_iff, htn, Finset.mem_toList]

/-- **Numbers run out, and none is given twice.**  Whatever names are interned from the empty columns, calls that fail
included, the columns that are reached are those of a table, and there are never more than 2³² − 1 names.  Below this
limit a new name gets a number that no name before it has, though the count is cut to 32 bits; at the limit it is
refused with both columns as they were, and a known name is still found.  So different names never have the same
symbol, neither in the table nor among all that was returned.  The limit is reached, and there are names beyond it. -/
theorem numbers_never_wrap :
    (∀ ns, ∃ (ys : List (Option Symbol)) (t : NameTable),
      (calls ns).run empty = (ys, t.columns) ∧ Limited ns ys t) ∧
    ∃ (ns : List String) (n : String) (ys : List (Option Symbol)) (t : NameTable),
      (calls ns).run empty = (ys, t.columns) ∧ t.size = UInt32.size - 1 ∧ t.find? n = none := by
  constructor
  · intro ns
    obtain ⟨ys, t, hr, -, ha, -⟩ := run_calls .empty ns
    exact ⟨ys, t, hr, ha.limited⟩
  · obtain ⟨ns, n, t, ht, hs, hn⟩ := exists_full
    obtain ⟨ys, t', hr, -, -, hi⟩ := run_calls .empty ns
    obtain rfl := hi t ht
    exact ⟨ns, n, ys, t, hr, hs, hn⟩

end Columns

end Promotion
