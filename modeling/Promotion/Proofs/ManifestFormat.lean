import Promotion.Manifest
import Promotion.Proofs.DistinctKeys
import Promotion.Proofs.Layout
/-!
# The format of the settings in a manifest

`Settles` says which entries `param-properties` give which settings, without an order of reading: a table has the two
settings under their keys and nothing else, an array has them in its first two places, and where one is absent the
default stands.  Reading a document accepts exactly this format (`accepts_iff_settles`); whatever has another form is
refused, so that a default never stands in for a setting that is there.

A table is read entry by entry, and a later entry would overwrite an earlier one under its key.  That no key is given
twice (`Toml.Table.Distinct`) is what makes the order of the entries irrelevant.
-/
namespace Promotion

namespace Toml

/-- The elements of an array. -/
def Node.elements? : Node → Option (List Node)
  | .array items _ => some items
  | .tables ts => some (ts.map .table)
  | _ => none

/-- A table or an array with nothing in it. -/
def Node.IsEmpty (n : Node) : Prop := (∃ t, n = .table t ∧ t.entries = []) ∨ n.elements? = some []

/-- One of the entries has the key and the value. -/
def Entry.Give (es : List Entry) (key : String) (n : Node) : Prop := ∃ e ∈ es, e.key.name = key ∧ e.value = n

namespace Entry

variable {e : Entry} {es : List Entry} {key : String} {n : Node}

theorem not_give (h : key ∉ es.map (·.key.name)) : ¬Give es key n := by
  rintro ⟨e, he, rfl, _⟩
  exact h (List.mem_map_of_mem he)

theorem give_cons_iff : Give (e :: es) key n ↔ (e.key.name = key ∧ e.value = n) ∨ Give es key n :=
  List.exists_mem_cons_iff _ e es

theorem give_cons_of_eq (he : e.key.name = key) (h : key ∉ es.map (·.key.name)) :
    Give (e :: es) key n ↔ n = e.value := by
  rw [give_cons_iff, or_iff_left (not_give h), and_iff_right he, eq_comm]

theorem give_cons_of_ne (he : e.key.name ≠ key) : Give (e :: es) key = Give es key :=
  funext fun _ => propext (give_cons_iff.trans (or_iff_right fun h => he h.1))

end Entry

end Toml

namespace Manifest

/-! ## The format -/

/-- A setting is given by its name, as a string or as the one key of a table with an empty value. -/
inductive IsSetting {α : Type} (name : α → String) : Toml.Node → α → Prop where
  | string (a : α) (r : Toml.Range) : IsSetting name (.scalar (.string (name a)) r) a
  | table {t : Toml.Table} {e : Toml.Entry} {a : α} :
    t.entries = [e] → e.key.name = name a → e.value.IsEmpty → IsSetting name (.table t) a

/-- The setting at a place of the document: the default if nothing stands there. -/
inductive Given {α : Type} (name : α → String) (default : α) (place : Toml.Node → Prop) : α → Prop where
  | absent : (∀ n, ¬place n) → Given name default place default
  | present {n : Toml.Node} {a : α} : place n → IsSetting name n a → Given name default place a

/-- The settings that the entry `param-properties` gives. -/
inductive Settles : Option Toml.Node → Settings → Prop where
  | absent : Settles none {}
  | table {t : Toml.Table} {c : Settings} :
    (∀ e ∈ t.entries, e.key.name = Settings.eligibilityKey ∨ e.key.name = Settings.missingConstructorKey) →
    Given Eligibility.name .perParameter (Toml.Entry.Give t.entries Settings.eligibilityKey) c.eligibility →
    Given MissingConstructor.name .ignore (Toml.Entry.Give t.entries Settings.missingConstructorKey)
      c.missingConstructor →
    Settles (some (.table t)) c
  | array {n : Toml.Node} {items : List Toml.Node} {c : Settings} : n.elements? = some items →
    Given Eligibility.name .perParameter (items[0]? = some ·) c.eligibility →
    Given MissingConstructor.name .ignore (items[1]? = some ·) c.missingConstructor →
    Settles (some n) c

/-! ## One setting -/

section Setting

variable {α : Type} {all : List α} {name : α → String}

theorem orAt_eq_ok_iff {range : Option Toml.Range} {x : Except Problem α} {a : α} :
    orAt range x = .ok a ↔ x = .ok a := by
  cases x with
  | error p => exact ⟨nofun, nofun⟩
  | ok b => rfl

theorem variant_eq_ok_iff (hall : ∀ a, a ∈ all) (hname : Function.Injective name) {s : String} {r : Toml.Range}
    {a : α} : variant all name s r = .ok a ↔ s = name a := by
  rw [variant]
  split
  · rename_i b hb
    have hs : name b = s := by simpa using List.find?_some hb
    rw [Except.ok.injEq, ← hs, hname.eq_iff]
  · rename_i hb
    refine ⟨nofun, fun hs => ?_⟩
    simpa [hs] using List.find?_eq_none.1 hb a (hall a)

theorem nothing_eq_ok_iff {n : Toml.Node} : nothing n = .ok () ↔ n.IsEmpty := by
  cases n <;> simp [nothing, Toml.Node.IsEmpty, Toml.Node.elements?]

/-- **A setting is read exactly where one stands.** -/
theorem setting_eq_ok_iff (hall : ∀ a, a ∈ all) (hname : Function.Injective name) {n : Toml.Node} {a : α} :
    setting all name n = .ok a ↔ IsSetting name n a := by
  unfold setting
  rw [orAt_eq_ok_iff]
  constructor
  · intro h
    split at h
    · obtain rfl := (variant_eq_ok_iff hall hname).1 h
      exact .string a _
    · split at h
      · cases h
      · rename_i e he
        obtain ⟨b, hb, h⟩ := bind_eq_ok_iff.1 h
        obtain ⟨⟨⟩, hv, h⟩ := bind_eq_ok_iff.1 h
        obtain rfl := Except.ok.inj h
        exact .table he ((variant_eq_ok_iff hall hname).1 hb) (nothing_eq_ok_iff.1 hv)
      · cases h
    · cases h
  · rintro (⟨_, r⟩ | ⟨he, hk, hv⟩)
    · exact (variant_eq_ok_iff hall hname).2 rfl
    · simp only [he]
      refine bind_eq_ok_iff.2 ⟨a, (variant_eq_ok_iff hall hname).2 hk, ?_⟩
      exact bind_eq_ok_iff.2 ⟨(), nothing_eq_ok_iff.2 hv, rfl⟩

theorem given_iff_of_absent {d a : α} {place : Toml.Node → Prop} (h : ∀ n, ¬place n) :
    Given name d place a ↔ a = d := by
  constructor
  · rintro (_ | ⟨hp, _⟩)
    · rfl
    · exact absurd hp (h _)
  · rintro rfl
    exact .absent h

theorem given_iff_of_present {d a : α} {place : Toml.Node → Prop} {n : Toml.Node} (h : ∀ m, place m ↔ m = n) :
    Given name d place a ↔ IsSetting name n a := by
  constructor
  · rintro (hp | ⟨hp, hs⟩)
    · exact absurd ((h n).2 rfl) (hp n)
    · rwa [(h _).1 hp] at hs
  · exact .present ((h n).2 rfl)

end Setting

theorem eligibility_eq_ok_iff {n : Toml.Node} {a : Eligibility} :
    eligibility n = .ok a ↔ IsSetting Eligibility.name n a := by
  refine setting_eq_ok_iff (fun a => ?_) fun a b h => ?_
  · cases a <;> decide
  · cases a <;> cases b <;> simp_all [Eligibility.name]

theorem missingConstructor_eq_ok_iff {n : Toml.Node} {a : MissingConstructor} :
    missingConstructor n = .ok a ↔ IsSetting MissingConstructor.name n a := by
  refine setting_eq_ok_iff (fun a => ?_) fun a b h => ?_
  · cases a <;> decide
  · cases a <;> cases b <;> simp_all [MissingConstructor.name]

/-! ## Both settings -/

theorem ofItems_eq_ok_iff {items : List Toml.Node} {c : Settings} : ofItems items = .ok c ↔
    Given Eligibility.name .perParameter (items[0]? = some ·) c.eligibility ∧
      Given MissingConstructor.name .ignore (items[1]? = some ·) c.missingConstructor := by
  obtain ⟨a, b⟩ := c
  match items with
  | [] =>
    rw [given_iff_of_absent nofun, given_iff_of_absent nofun]
    simp [ofItems, eq_comm]
  | [e] =>
    rw [given_iff_of_present (n := e) (by simp [eq_comm]), given_iff_of_absent nofun, ← eligibility_eq_ok_iff]
    simp [ofItems, map_eq_ok_iff, @eq_comm _ b]
  | e :: m :: items =>
    rw [given_iff_of_present (n := e) (by simp [eq_comm]), given_iff_of_present (n := m) (by simp [eq_comm]),
      ← eligibility_eq_ok_iff, ← missingConstructor_eq_ok_iff]
    simp [ofItems, bind_eq_ok_iff, map_eq_ok_iff]

section Entries

variable {s c : Settings} {e : Toml.Entry} {es : List Toml.Entry}

theorem ofEntry_eq_ok_iff_of_eligibility (h : e.key.name = Settings.eligibilityKey) :
    ofEntry s e = .ok c ↔ ∃ a, IsSetting Eligibility.name e.value a ∧ s.withEligibility a = c := by
  simp [ofEntry, if_pos h, map_eq_ok_iff, orAt_eq_ok_iff, eligibility_eq_ok_iff]

theorem ofEntry_eq_ok_iff_of_missingConstructor (h : e.key.name = Settings.missingConstructorKey) :
    ofEntry s e = .ok c ↔ ∃ a, IsSetting MissingConstructor.name e.value a ∧ s.withMissingConstructor a = c := by
  have he : e.key.name ≠ Settings.eligibilityKey := by
    rw [h]
    decide
  simp [ofEntry, if_neg he, if_pos h, map_eq_ok_iff, orAt_eq_ok_iff, missingConstructor_eq_ok_iff]

/-- **Reading the entries of a table one by one is looking up each setting**: with distinct keys, the entry that is read
now is the only one that touches its setting. -/
theorem foldlM_ofEntry_eq_ok_iff (hk : (es.map (·.key.name)).Nodup) : es.foldlM ofEntry s = .ok c ↔
    (∀ e ∈ es, e.key.name = Settings.eligibilityKey ∨ e.key.name = Settings.missingConstructorKey) ∧
      Given Eligibility.name s.eligibility (Toml.Entry.Give es Settings.eligibilityKey) c.eligibility ∧
      Given MissingConstructor.name s.missingConstructor (Toml.Entry.Give es Settings.missingConstructorKey)
        c.missingConstructor := by
  induction es generalizing s with
  | nil =>
    rw [given_iff_of_absent fun _ => Toml.Entry.not_give List.not_mem_nil,
      given_iff_of_absent fun _ => Toml.Entry.not_give List.not_mem_nil]
    obtain ⟨a, b⟩ := c
    obtain ⟨a', b'⟩ := s
    simp [pure, Except.pure, eq_comm]
  | cons e es ih =>
    have he : e.key.name ∉ es.map (·.key.name) := (List.nodup_cons.1 hk).1
    have hk := (List.nodup_cons.1 hk).2
    rw [List.foldlM_cons, bind_eq_ok_iff, List.forall_mem_cons]
    by_cases h₁ : e.key.name = Settings.eligibilityKey
    · have h₂ : e.key.name ≠ Settings.missingConstructorKey := by
        rw [h₁]
        decide
      rw [h₁] at he
      -- no later entry has this key, so the setting read now is the one that stays
      rw [Toml.Entry.give_cons_of_ne h₂, given_iff_of_present fun _ => Toml.Entry.give_cons_of_eq h₁ he]
      simp only [ofEntry_eq_ok_iff_of_eligibility h₁, ih hk]
      constructor
      · rintro ⟨_, ⟨a, ha, rfl⟩, hes, hg, hm⟩
        rw [given_iff_of_absent fun _ => Toml.Entry.not_give he] at hg
        exact ⟨⟨.inl h₁, hes⟩, hg ▸ ha, hm⟩
      · rintro ⟨⟨_, hes⟩, ha, hm⟩
        exact ⟨_, ⟨_, ha, rfl⟩, hes, .absent fun _ => Toml.Entry.not_give he, hm⟩
    · by_cases h₂ : e.key.name = Settings.missingConstructorKey
      · rw [h₂] at he
        rw [Toml.Entry.give_cons_of_ne h₁, given_iff_of_present fun _ => Toml.Entry.give_cons_of_eq h₂ he]
        simp only [ofEntry_eq_ok_iff_of_missingConstructor h₂, ih hk]
        constructor
        · rintro ⟨_, ⟨a, ha, rfl⟩, hes, hg, hm⟩
          rw [given_iff_of_absent fun _ => Toml.Entry.not_give he] at hm
          exact ⟨⟨.inr h₂, hes⟩, hg, hm ▸ ha⟩
        · rintro ⟨⟨_, hes⟩, hg, ha⟩
          exact ⟨_, ⟨_, ha, rfl⟩, hes, hg, .absent fun _ => Toml.Entry.not_give he⟩
      · simp [ofEntry, h₁, h₂]

end Entries

/-! ## Documents -/

/-- **The settings are read exactly where the format has them.** -/
theorem ofNode_eq_ok_iff {n : Toml.Node} (hn : n.Distinct) {c : Settings} : ofNode n = .ok c ↔ Settles (some n) c := by
  unfold ofNode
  rw [orAt_eq_ok_iff]
  cases hn with
  | scalar s r =>
    refine ⟨nofun, ?_⟩
    rintro (_ | _ | ⟨⟨⟩⟩)
  | array r _ =>
    refine ofItems_eq_ok_iff.trans ⟨fun ⟨he, hm⟩ => .array rfl he hm, ?_⟩
    rintro (_ | _ | ⟨⟨⟩, he, hm⟩)
    exact ⟨he, hm⟩
  | table ht =>
    refine (foldlM_ofEntry_eq_ok_iff (Toml.Table.distinct_iff.1 ht).1).trans ⟨fun ⟨hk, he, hm⟩ => .table hk he hm, ?_⟩
    rintro (_ | ⟨hk, he, hm⟩ | ⟨⟨⟩⟩)
    exact ⟨hk, he, hm⟩
  | tables _ =>
    refine ofItems_eq_ok_iff.trans ⟨fun ⟨he, hm⟩ => .array rfl he hm, ?_⟩
    rintro (_ | _ | ⟨⟨⟩, he, hm⟩)
    exact ⟨he, hm⟩

/-- The outcome of reading a document: the settings it has by the format, or a fault if it has none. -/
structure Decodes (t : Toml.Table) (r : Except Error Settings) : Prop where
  ok_iff (c : Settings) : r = .ok c ↔ Settles ((t.find? rootKey).map (·.value)) c
  invalid : (∀ c, ¬Settles ((t.find? rootKey).map (·.value)) c) → ∃ fault range, r = .error (.invalid fault range)

theorem decodes_ofTable {t : Toml.Table} (ht : t.Distinct) : Decodes t (ofTable t) := by
  unfold ofTable
  cases h : t.find? rootKey with
  | none =>
    refine ⟨fun c => ?_, fun hc => absurd ?_ (hc {})⟩
    · rw [h]
      refine ⟨fun hc => Except.ok.inj hc ▸ .absent, ?_⟩
      rintro ⟨⟩
      rfl
    · rw [h]
      exact .absent
  | some e =>
    have hs (c : Settings) : ofNode e.value = .ok c ↔ Settles ((t.find? rootKey).map (·.value)) c := by
      rw [h]
      exact ofNode_eq_ok_iff (ht.value h)
    dsimp only
    cases hn : ofNode e.value with
    | ok c =>
      refine ⟨fun c' => ?_, fun hc => absurd ((hs c).1 hn) (hc c)⟩
      rw [← hs, hn, Except.ok.injEq, Except.ok.injEq]
    | error p =>
      refine ⟨fun c => ?_, fun _ => ⟨_, _, rfl⟩⟩
      rw [← hs, hn]
      exact ⟨nofun, nofun⟩

theorem ofTable_eq_of_find?_eq {t t' : Toml.Table} (h : t'.find? rootKey = t.find? rootKey) :
    ofTable t' = ofTable t := by
  rw [ofTable, h, ofTable]

theorem read_eq_ofTable {text : String} {t : Toml.Table} (h : Toml.Table.read? text = some t) :
    read text = ofTable t := by
  rw [read, h]

/-- **Reading accepts exactly the format.**  It does so on every tree whose tables have distinct keys.  A document is
such a tree, so what is read from its text are the settings that its entry `param-properties` has by the format, and
a fault if it has none; two documents with this entry in common are read alike. -/
theorem accepts_iff_settles :
    (∀ t : Toml.Table, t.Distinct → Decodes t (ofTable t)) ∧
      ∀ (text : String) (t : Toml.Table), Toml.Table.read? text = some t →
        t.Distinct ∧ Decodes t (read text) ∧
          ∀ (text' : String) (t' : Toml.Table), Toml.Table.read? text' = some t' →
            t'.find? rootKey = t.find? rootKey → read text' = read text := by
  refine ⟨fun t ht => decodes_ofTable ht, fun text t h => ?_⟩
  have ht := Toml.Table.distinct_of_read? h
  refine ⟨ht, ?_, fun text' t' h' he => ?_⟩
  · rw [read_eq_ofTable h]
    exact decodes_ofTable ht
  · rw [read_eq_ofTable h, read_eq_ofTable h', ofTable_eq_of_find?_eq he]

/-- A manifest with the settings in the other order, one of them as a table, next to a table of no interest. -/
def mixedText : String :=
  "[param-properties]\nmissing-constructor.error = []\neligibility = \"all-parameters\"\n[other]\n"

theorem accepts_iff_settles_mixedText : ∃ t, Toml.Table.read? mixedText = some t ∧
    Settles ((t.find? rootKey).map (·.value)) ⟨.allParameters, .error⟩ := by
  have h : (Toml.Table.read? mixedText).isSome := by decide +kernel
  obtain ⟨t, ht⟩ := Option.isSome_iff_exists.1 h
  have hr : read mixedText = .ok ⟨.allParameters, .error⟩ := by decide +kernel
  exact ⟨t, ht, ((accepts_iff_settles.2 mixedText t ht).2.1.ok_iff _).1 hr⟩

end Manifest

end Promotion
