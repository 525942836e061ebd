import Mathlib.Data.List.Nodup
import Promotion.Toml.Reader
/-!
# A document gives each key once

A table that is read from a text has no two entries under one key, and neither has any table inside it
(`Table.distinct_of_read?`).  The tables of a document grow by one entry at a time: `alter` leads to the table that is
changed, and the change adds an entry only if its key is new.  Inline tables grow the same way while they are read.
-/
namespace Promotion.Toml

mutual

/-- No table in the node has two entries under one key. -/
inductive Node.Distinct : Node → Prop where
  | scalar (s : Scalar) (r : Range) : Node.Distinct (.scalar s r)
  | array {items : List Node} (r : Range) : (∀ n ∈ items, Node.Distinct n) → Node.Distinct (.array items r)
  | table {t : Table} : Table.Distinct t → Node.Distinct (.table t)
  | tables {ts : List Table} : (∀ t ∈ ts, Table.Distinct t) → Node.Distinct (.tables ts)

/-- Neither the table nor a table inside it has two entries under one key. -/
inductive Table.Distinct : Table → Prop where
  | mk {entries : List Entry} (kind : TableKind) (range : Option Range) :
    (entries.map (·.key.name)).Nodup → (∀ e ∈ entries, Node.Distinct e.value) →
    Table.Distinct ⟨kind, entries, range⟩

end

/-! ## Tables that grow -/

namespace Table

variable {t t' : Table}

theorem distinct_iff : t.Distinct ↔ (t.entries.map (·.key.name)).Nodup ∧ ∀ e ∈ t.entries, e.value.Distinct := by
  obtain ⟨kind, entries, range⟩ := t
  constructor
  · rintro ⟨⟩
    exact ⟨‹_›, ‹_›⟩
  · rintro ⟨hk, hv⟩
    exact .mk kind range hk hv

/-- What kind of table it is and where it stands do not matter. -/
theorem Distinct.of_entries_eq (ht : t.Distinct) (h : t'.entries = t.entries) : t'.Distinct := by
  rw [distinct_iff] at ht ⊢
  rwa [h]

theorem distinct_nil (kind : TableKind) (range : Option Range) : Distinct ⟨kind, [], range⟩ :=
  .mk kind range .nil nofun

theorem Distinct.value (ht : t.Distinct) {name : String} {e : Entry} (h : t.find? name = some e) : e.value.Distinct :=
  (distinct_iff.1 ht).2 e (List.mem_of_find?_eq_some h)

theorem find?_eq_none_iff {name : String} : t.find? name = none ↔ name ∉ t.entries.map (·.key.name) := by
  simp [find?, List.find?_eq_none]

theorem Distinct.push (ht : t.Distinct) {key : Key} {v : Node} (hk : t.find? key.name = none) (hv : v.Distinct) :
    (t.push key v).Distinct := by
  obtain ⟨hn, he⟩ := distinct_iff.1 ht
  refine distinct_iff.2 ⟨?_, List.forall_mem_append.2 ⟨he, List.forall_mem_singleton.2 hv⟩⟩
  rw [Table.push, List.map_append]
  exact hn.append (List.nodup_singleton _) (List.disjoint_singleton.2 (find?_eq_none_iff.1 hk))

theorem Distinct.set (ht : t.Distinct) (name : String) {v : Node} (hv : v.Distinct) : (t.set name v).Distinct := by
  obtain ⟨hn, he⟩ := distinct_iff.1 ht
  have hk : (t.set name v).entries.map (·.key.name) = t.entries.map (·.key.name) := by
    rw [Table.set, List.map_map]
    refine List.map_congr_left fun e _ => ?_
    rw [Function.comp_apply]
    split <;> rfl
  refine distinct_iff.2 ⟨hk ▸ hn, List.forall_mem_map.2 fun e hm => ?_⟩
  split
  · exact hv
  · exact he e hm

theorem Distinct.erase (ht : t.Distinct) (name : String) : (t.erase name).Distinct := by
  obtain ⟨hn, he⟩ := distinct_iff.1 ht
  refine distinct_iff.2 ⟨hn.sublist (List.filter_sublist.map _), fun e hm => he e ?_⟩
  exact (List.mem_filter.1 hm).1

theorem find?_erase (t : Table) (name : String) : (t.erase name).find? name = none := by
  rw [find?, List.find?_eq_none]
  intro e he
  simpa using (List.mem_filter.1 he).2

/-- **A change at the end of a path keeps keys distinct if it does so there.** -/
theorem Distinct.alter {missing : TableKind} {f : Table → Option Table}
    (hf : ∀ c c', c.Distinct → f c = some c' → c'.Distinct) {ks : List Key} (ht : t.Distinct)
    (h : t.alter missing f ks = some t') : t'.Distinct := by
  induction ks generalizing t t' with
  | nil => exact hf t t' ht h
  | cons k ks ih =>
    rw [Table.alter] at h
    split at h
    · rename_i hk
      obtain ⟨c, hc, h⟩ := Option.bind_eq_some_iff.1 h
      obtain rfl := Option.some.inj h
      exact ht.push hk (.table (ih (distinct_nil missing none) hc))
    · rename_i c hk
      split at h
      · cases h
      · obtain ⟨c', hc, h⟩ := Option.bind_eq_some_iff.1 h
        obtain rfl := Option.some.inj h
        obtain hd : c.Distinct := by
          cases ht.value hk
          assumption
        exact ht.set k.name (.table (ih hd hc))
    · rename_i cs hk
      obtain ⟨c, hc, h⟩ := Option.bind_eq_some_iff.1 h
      obtain ⟨c', hc', h⟩ := Option.bind_eq_some_iff.1 h
      obtain rfl := Option.some.inj h
      have hd : ∀ c ∈ cs, c.Distinct := by
        cases ht.value hk
        assumption
      refine ht.set k.name (.tables (List.forall_mem_append.2 ⟨fun c hc => ?_, ?_⟩))
      · exact hd c ((List.dropLast_subset cs) hc)
      · exact List.forall_mem_singleton.2 (ih (hd c (List.mem_of_getLast? hc)) hc')
    · cases h

theorem Distinct.insert {path : List Key} {key : Key} {v : Node} (ht : t.Distinct) (hv : v.Distinct)
    (h : t.insert path key v = some t') : t'.Distinct := by
  refine ht.alter (fun c c' hc h => ?_) h
  split at h
  · cases h
  · rename_i hk
    obtain rfl := Option.some.inj h
    rw [Bool.or_eq_true, not_or, Option.not_isSome_iff_eq_none] at hk
    exact hc.push hk.2 hv

theorem Distinct.openHeader {path : List Key} {key : Key} {range : Range} (ht : t.Distinct)
    (h : t.openHeader path key range = some t') : t'.Distinct := by
  refine ht.alter (fun c c' hc h => ?_) h
  split at h
  · rename_i hk
    obtain rfl := Option.some.inj h
    exact hc.push hk (.table (distinct_nil _ _))
  · rename_i d hk
    split at h
    · obtain rfl := Option.some.inj h
      obtain hd : d.Distinct := by
        cases hc.value hk
        assumption
      exact (hc.erase key.name).push (c.find?_erase key.name) (.table (hd.of_entries_eq rfl))
    · cases h
  · cases h

theorem Distinct.openElement {path : List Key} {key : Key} {range : Range} (ht : t.Distinct)
    (h : t.openElement path key range = some t') : t'.Distinct := by
  refine ht.alter (fun c c' hc h => ?_) h
  split at h
  · rename_i hk
    obtain rfl := Option.some.inj h
    exact hc.push hk (.tables (List.forall_mem_singleton.2 (distinct_nil _ _)))
  · rename_i ds hk
    obtain rfl := Option.some.inj h
    have hd : ∀ d ∈ ds, d.Distinct := by
      cases hc.value hk
      assumption
    refine hc.set key.name (.tables (List.forall_mem_append.2 ⟨hd, ?_⟩))
    exact List.forall_mem_singleton.2 (distinct_nil _ _)
  · cases h

theorem Distinct.insertIn {section_ path : List Key} {key : Key} {v : Node} (ht : t.Distinct) (hv : v.Distinct)
    (h : t.insertIn section_ path key v = some t') : t'.Distinct := by
  refine ht.alter (fun c c' hc h => ?_) h
  have hr : ∀ range, Distinct { c with range } := fun range => hc.of_entries_eq rfl
  exact (hr _).insert hv h

end Table

/-- The value that an item gives. -/
def Item.Distinct : Item → Prop
  | .value _ _ v => v.Distinct
  | _ => True

theorem Item.distinct_of_apply {item : Item} (hi : item.Distinct) {section_ section' : List Key} {t t' : Table}
    (ht : t.Distinct) (h : Item.apply (section_, t) item = some (section', t')) : t'.Distinct := by
  cases item with
  | header path key range =>
    obtain ⟨t₁, h₁, h⟩ := Option.bind_eq_some_iff.1 h
    obtain ⟨-, rfl⟩ := Prod.mk.inj (Option.some.inj h)
    exact ht.openHeader h₁
  | element path key range =>
    obtain ⟨t₁, h₁, h⟩ := Option.bind_eq_some_iff.1 h
    obtain ⟨-, rfl⟩ := Prod.mk.inj (Option.some.inj h)
    exact ht.openElement h₁
  | value path key v =>
    obtain ⟨t₁, h₁, h⟩ := Option.bind_eq_some_iff.1 h
    obtain ⟨-, rfl⟩ := Prod.mk.inj (Option.some.inj h)
    exact ht.insertIn hi h₁

theorem Item.distinct_of_foldlM {items : List Item} (hi : ∀ item ∈ items, item.Distinct) {acc acc' : List Key × Table}
    (ht : acc.2.Distinct) (h : items.foldlM Item.apply acc = some acc') : acc'.2.Distinct := by
  induction items generalizing acc with
  | nil =>
    obtain rfl := Option.some.inj h
    exact ht
  | cons item items ih =>
    obtain ⟨hd, hi⟩ := List.forall_mem_cons.1 hi
    rw [List.foldlM_cons] at h
    obtain ⟨acc₁, h₁, h⟩ := Option.bind_eq_some_iff.1 h
    exact ih hi (Item.distinct_of_apply hd ht h₁) h

theorem Table.distinct_of_ofItems {items : List Item} (hi : ∀ item ∈ items, item.Distinct) {t : Table}
    (h : Table.ofItems items = some t) : t.Distinct := by
  obtain ⟨acc, ha, h⟩ := Option.bind_eq_some_iff.1 h
  obtain rfl := Option.some.inj h
  exact Item.distinct_of_foldlM hi (distinct_nil _ _) ha

/-! ## Readers -/

namespace Reader

variable {α β : Type} {P : α → Prop} {Q : β → Prop}

/-- Whatever the reader reads has the property. -/
def Gives (P : α → Prop) (r : Reader α) : Prop := ∀ cs a rest, r cs = some (a, rest) → P a

theorem Gives.any (r : Reader α) : Gives (fun _ => True) r := fun _ _ _ _ => trivial

theorem Gives.pure {a : α} (h : P a) : Gives P (pure a) := by
  rintro cs _ _ ⟨⟩
  exact h

theorem Gives.failure : Gives P failure := by
  rintro cs _ _ ⟨⟩

theorem Gives.bind {x : Reader α} {k : α → Reader β} (hx : Gives P x) (hk : ∀ a, P a → Gives Q (k a)) :
    Gives Q (x >>= k) := by
  intro cs b rest h
  have hb : (x >>= k) cs = (x cs).bind fun r => k r.1 r.2 := rfl
  rw [hb] at h
  obtain ⟨⟨a, cs'⟩, ha, h⟩ := Option.bind_eq_some_iff.1 h
  exact hk a (hx cs a cs' ha) cs' b rest h

theorem Gives.then {x : Reader α} {k : α → Reader β} (hk : ∀ a, Gives Q (k a)) : Gives Q (x >>= k) :=
  (Gives.any x).bind fun a _ => hk a

theorem Gives.lift {o : Option α} (h : ∀ a, o = some a → P a) : Gives P (liftM o) := by
  intro cs a rest hr
  cases o with
  | none => cases hr
  | some b =>
    obtain ⟨rfl, -⟩ := Prod.mk.inj (Option.some.inj hr)
    exact h b rfl

theorem Gives.ranged {r : Reader α} (hr : Gives P r) (size : Nat) : Gives (fun p => P p.1) (ranged size r) :=
  .then fun _ => .bind hr fun _ ha => .then fun _ => .pure ha

theorem gives_arrayItems {value : Reader Node} (hv : Gives Node.Distinct value) :
    ∀ n, Gives (fun items => ∀ v ∈ items, v.Distinct) (arrayItems value n)
  | 0 => .failure
  | n + 1 => by
    refine .then fun cs => .then fun _ => .then fun b => ?_
    split
    · exact .pure nofun
    · refine .bind hv fun v hd => .then fun cs => .then fun _ => .then fun b => ?_
      split
      · exact .bind (gives_arrayItems hv n) fun items hi => .pure (List.forall_mem_cons.2 ⟨hd, hi⟩)
      · exact .then fun _ => .pure (List.forall_mem_singleton.2 hd)

theorem gives_inlineEntries (size : Nat) {value : Reader Node} (hv : Gives Node.Distinct value) :
    ∀ (n : Nat) (t : Table), t.Distinct → Gives Table.Distinct (inlineEntries size value n t)
  | 0, _, _ => .failure
  | n + 1, t, ht => by
    refine .then fun key => .then fun _ => .then fun _ => .bind hv fun v hd => ?_
    refine .bind (.lift fun t' h => ht.insert hd h) fun t' ht' => .then fun _ => .then fun b => ?_
    split
    · exact gives_inlineEntries size hv n t' ht'
    · exact .then fun _ => .pure ht'

theorem gives_value (size : Nat) : ∀ depth, Gives Node.Distinct (value size depth)
  | 0 => .then fun _ => .pure (.scalar _ _)
  | depth + 1 => by
    refine .then fun c => ?_
    split
    · have hi : Gives (fun items => ∀ v ∈ items, v.Distinct) (do
          expect '['
          arrayItems (value size depth) ((← get).length + 1)) :=
        .then fun _ => .then fun _ => gives_arrayItems (gives_value size depth) _
      exact .bind (hi.ranged size) fun p hp => .pure (.array p.2 hp)
    · have ht : Gives Table.Distinct (do
          expect '{'
          skipBlanks
          if ← eat '}' then return ⟨.inline, [], none⟩
          else inlineEntries size (value size depth) (← get).length ⟨.inline, [], none⟩) := by
        refine .then fun _ => .then fun _ => .then fun b => ?_
        split
        · exact .pure (Table.distinct_nil _ _)
        · exact .then fun _ => gives_inlineEntries size (gives_value size depth) _ _ (Table.distinct_nil _ _)
      exact .bind (ht.ranged size) fun p hp => .pure (.table (hp.of_entries_eq rfl))
    · exact .then fun _ => .pure (.scalar _ _)

theorem gives_header (size : Nat) : Gives Item.Distinct (header size) := by
  refine .then fun p => .pure ?_
  split <;> trivial

theorem gives_keyValue (size : Nat) : Gives Item.Distinct (keyValue size) :=
  .then fun _ => .then fun _ => .then fun _ => .bind (gives_value size maxNesting) fun _ hv => .pure hv

theorem gives_items (size : Nat) : ∀ n, Gives (fun items => ∀ item ∈ items, item.Distinct) (items size n)
  | 0 => .failure
  | n + 1 => by
    refine .then fun _ => .then fun c => ?_
    split
    · exact .pure nofun
    · refine .then fun b => ?_
      split
      · exact gives_items size n
      · refine .then fun b => ?_
        split
        · exact .then fun _ => gives_items size n
        · have hn : ∀ item, Item.Distinct item → Gives (fun items => ∀ item ∈ items, item.Distinct) (do
              itemEnd
              return item :: (← items size n)) := fun item hi =>
            .then fun _ => .bind (gives_items size n) fun items his => .pure (List.forall_mem_cons.2 ⟨hi, his⟩)
          dsimp only
          split
          · exact .bind (gives_header size) hn
          · exact .bind (gives_keyValue size) hn

end Reader

/-- **A document gives each key once, in every one of its tables.** -/
theorem Table.distinct_of_read? {text : String} {t : Table} (h : Table.read? text = some t) : t.Distinct := by
  obtain ⟨⟨items, rest⟩, hi, h⟩ := Option.bind_eq_some_iff.1 h
  exact Table.distinct_of_ofItems (Reader.gives_items _ _ _ _ _ hi) h

end Promotion.Toml
